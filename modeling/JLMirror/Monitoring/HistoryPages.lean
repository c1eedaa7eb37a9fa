import JLMirror.Foundations.Pages
import JLMirror.Monitoring.HostResources
import JLMirror.Monitoring.OperationRequests
import JLMirror.Monitoring.UsageBilling

/-!
# The pages of a history sync

"Real sources carry thousands of items, so the op needs a deterministic continuation cursor"
(`015_history_item_pagination.sql`). A history operation reads the page of items behind its cursor; where the
page is full and items are left, its completion queues an operation behind the last item. The query of the
claim, the test for more and the queue are in three places, and between two pages anything may happen.

## The model

* `HistoryChain` is a chain within a run: an operation is claimed, its claim is committed as a success, and
  so on with the operation that this completion queued. What else the run does is free.
* The items are those of `MetricTables.pollable`: active, in scope, under current evidence.

## What is proved

* `historyTarget_some`: every native type has a history.
* `chain_covers`: what a chain from a cursor visits.
* **Key result** (`history_chain_covers`): while the items stay as they are, a chain from the empty cursor
  visits them in order, each once, and all of them when it ends; its cursors increase, and it has no more
  pages than there are items.

## Honest scope

Texts are compared by code points, in the query as in the code. No item has the empty id, which no cursor
is before.
-/

namespace JLMirror.Monitoring

open JLMirror.Foundations

/-- The id of the item of a row. -/
def itemRef (x : MetricDefinition × ItemBinding) : String := x.2.provider_external_ref

/-! ### Items and targets -/

theorem historyTarget_some (x : MetricDefinition × ItemBinding) :
    ∃ t, historyTarget x = some t ∧ t.provider_external_ref = itemRef x := by
  obtain ⟨d, b⟩ := x
  cases hnative : b.native_value_type <;> exact ⟨_, by rw [historyTarget, hnative]; rfl, rfl⟩

theorem targets_refs (rows : List (MetricDefinition × ItemBinding)) :
    (rows.filterMap historyTarget).map HistoryMetricTarget.provider_external_ref = rows.map itemRef := by
  induction rows with
  | nil => rfl
  | cons x rows ih =>
    obtain ⟨t, ht, href⟩ := historyTarget_some x
    rw [List.filterMap_cons_some ht, List.map_cons, List.map_cons, href, ih]

theorem targets_length (rows : List (MetricDefinition × ItemBinding)) :
    (rows.filterMap historyTarget).length = rows.length := by
  have hlen := congrArg List.length (targets_refs rows)
  rwa [List.length_map, List.length_map] at hlen

variable {t : MetricTables} {x : MetricDefinition × ItemBinding}

theorem mem_pollable {source_id generation : String} :
    x ∈ t.pollable source_id generation ↔ x.1 ∈ t.definitions ∧ x.2 ∈ t.bindings ∧
      x.1.activeIn source_id generation = true ∧ x.1.definition_evidence_state = .current ∧ x.1.in_scope = true ∧
        x.2.metric_definition_id = x.1.metric_definition_id ∧ x.2.evidence_state = .current := by
  obtain ⟨d, b⟩ := x
  simp only [MetricTables.pollable, List.mem_insertionSort, List.mem_flatMap, List.mem_map, List.mem_filter,
    decide_eq_true_eq, Prod.mk.injEq]
  constructor
  · rintro ⟨_, hd, _, ⟨hb, hsel⟩, rfl, rfl⟩
    exact ⟨hd, hb, hsel⟩
  · rintro ⟨hd, hb, hsel⟩
    exact ⟨d, hd, b, ⟨hb, hsel⟩, rfl, rfl⟩

/-- Two rows with one item have one binding, hence one definition. -/
theorem Copied.eq_of_itemRef (h : Copied t) {source_id generation : String} {y : MetricDefinition × ItemBinding}
    (hx : x ∈ t.pollable source_id generation) (hy : y ∈ t.pollable source_id generation)
    (href : itemRef x = itemRef y) : x = y := by
  obtain ⟨hd, hb, hactive, -, -, hid, -⟩ := mem_pollable.1 hx
  obtain ⟨hd', hb', hactive', -, -, hid', -⟩ := mem_pollable.1 hy
  simp only [MetricDefinition.activeIn, decide_eq_true_eq] at hactive hactive'
  have hplace := h.place _ hd _ hb hid
  have hplace' := h.place _ hd' _ hb' hid'
  simp only [MetricDefinition.place, ItemBinding.place, Prod.mk.injEq] at hplace hplace'
  have hsource : x.2.monitoring_source_id = y.2.monitoring_source_id := by
    rw [← hplace.1, ← hplace'.1, hactive.1, hactive'.1]
  have hgeneration : x.2.source_instance_generation = y.2.source_instance_generation := by
    rw [← hplace.2.1, ← hplace'.2.1, hactive.2.1, hactive'.2.1]
  have hbinding : x.2 = y.2 := eq_of_key h.keys hb hb' (by
    rw [ItemBinding.key, ItemBinding.key, hsource, hgeneration]
    exact congrArg _ (congrArg _ href))
  exact Prod.ext (eq_of_key h.definition_ids hd hd' (by rw [← hid, ← hid', hbinding])) hbinding

theorem Copied.pollable_nodup (h : Copied t) (source_id generation : String) :
    (t.pollable source_id generation).Nodup := by
  refine (List.perm_insertionSort _ _).nodup_iff.2 (List.nodup_flatMap.2 ⟨fun d _ => ?_, ?_⟩)
  · exact ((List.Nodup.of_map _ h.ids).filter _).map fun b b' heq => (Prod.mk.inj heq).2
  · refine (List.Nodup.of_map _ h.definition_ids).imp fun hne x hx hx' => ?_
    obtain ⟨b, -, rfl⟩ := List.mem_map.1 hx
    obtain ⟨b', -, heq⟩ := List.mem_map.1 hx'
    exact hne (Prod.mk.inj heq).1.symm

theorem Copied.pollable_ordered (h : Copied t) (source_id generation : String) :
    Ordered itemRef (t.pollable source_id generation) := by
  have hsorted : (t.pollable source_id generation).Pairwise fun x y => itemRef x ≤ itemRef y :=
    List.pairwise_insertionSort (fun x y : MetricDefinition × ItemBinding => itemRef x ≤ itemRef y) _
  have hdistinct : ((t.pollable source_id generation).map itemRef).Nodup :=
    (h.pollable_nodup source_id generation).map_on fun x hx y hy href => h.eq_of_itemRef hx hy href
  exact (hsorted.and (List.pairwise_map.1 hdistinct)).imp fun hle => lt_of_le_of_ne hle.1 hle.2

/-! ### A page -/

theorem empty_le (cursor : String) : "" ≤ cursor :=
  not_lt.1 fun hlt => List.not_lt_nil _ (String.lt_iff_toList_lt.1 hlt)

theorem nextCursor_page {rows : List (MetricDefinition × ItemBinding)} (hrows : Ordered itemRef rows) {size : ℕ}
    {cursor : String} (hx : x ∈ (page itemRef size rows cursor).getLast?) :
    nextCursor ((page itemRef size rows cursor).filterMap historyTarget) = itemRef x := by
  rw [nextCursor, targets_refs]
  refine foldl_max_last ?_ (fun y hy => ?_) ?_
  · rw [Option.mem_def, List.getLast?_map, Option.mem_def.1 hx, Option.map_some]
  · obtain ⟨z, hz, rfl⟩ := List.mem_map.1 hy
    exact (hrows.page size cursor).le_last hx z hz
  · exact empty_le _

/-- What a completion of the history queues: the next page, where the page was full and items are left. -/
theorem chainHistory_next {domain : Domain} {now : Timestamp} {claim : MetricHistoryClaim} {result : MetricHistoryResult}
    {db db' : SyncDb} (h : chainHistory domain now claim result db = .ok db') :
    (result.succeeded = true ∧ claim.targets.length = domain.max_history_items_per_request ∧
        (∃ x ∈ db.metrics.pollable claim.monitoring_source_id claim.source_instance_generation,
          nextCursor claim.targets < itemRef x) ∧
        ∃ r : OperationRequest, r.monitoring_source_id = claim.monitoring_source_id ∧
          r.source_instance_generation = claim.source_instance_generation ∧
          r.history_item_cursor = nextCursor claim.targets ∧ db'.core.requests = db.core.requests ++ [r]) ∨
      (result.succeeded = true → claim.targets ≠ [] → claim.targets.length = domain.max_history_items_per_request →
          ∀ x ∈ db.metrics.pollable claim.monitoring_source_id claim.source_instance_generation,
            ¬nextCursor claim.targets < itemRef x) ∧
        db' = db := by
  unfold chainHistory at h
  split_ifs at h with hmore
  · obtain ⟨hs, -, hfull, hany⟩ := hmore
    obtain ⟨x, hx, hlt⟩ := List.any_eq_true.1 hany
    exact Or.inl ⟨hs, hfull, ⟨x, hx, of_decide_eq_true hlt⟩, _, rfl, rfl, rfl, insertOperation_requests h⟩
  · refine Or.inr ⟨fun hs hne hfull x hx hlt => hmore ⟨hs, ?_, hfull, ?_⟩, (Except.ok.inj h).symm⟩
    · simpa [List.isEmpty_iff] using hne
    · exact List.any_eq_true.2 ⟨x, hx, decide_eq_true hlt⟩

namespace Sync

variable {domain : Domain}

/-- The operation that a transaction queued. -/
def queuedBy (db db' : SyncDb) : Option OperationRequest := db'.core.requests[db.core.requests.length]?

theorem markRunning_stateOf {c : CoreTables} (hkeyed : c.Keyed) (now : Timestamp) {o : OperationRow}
    (ho : o ∈ c.operations) (hpending : o.state = .pending) (hnone : o.claim_token = none) (token : String) :
    (c.markRunning now o.monitoring_sync_operation_id token).stateOf o.monitoring_sync_operation_id = some .running := by
  have hops : (c.markRunning now o.monitoring_sync_operation_id token).operations = updateWhere
      (fun r => r.monitoring_sync_operation_id = o.monitoring_sync_operation_id ∧ r.state = .pending ∧ r.claim_token = none)
      (fun r => { r with state := .running, claim_token := some token, started_at := some now }) c.operations ++ [] :=
    (List.append_nil _).symm
  rw [stateOf_of_updates hops (fun _ => rfl) (stateOf_of_mem hkeyed ho), if_pos (by simp [hpending, hnone])]

variable {now : Timestamp} {db : SyncDb}

/-- What is claimed of a history operation: the page behind its cursor, or nothing, and then it succeeded if the page
is empty. -/
theorem claim_history_ok {op_id token : String} {db' : SyncDb} {c : Option Claim} (hkeyed : db.core.Keyed)
    (h : claim domain now .history op_id token db = .ok (c, db')) :
    ∃ o ∈ db.core.operations, o.monitoring_sync_operation_id = op_id ∧
      ((c = none ∧ (db'.core.stateOf op_id = some .succeeded →
          db.metrics.historyPage domain o.monitoring_source_id o.source_instance_generation o.history_item_cursor = [])) ∨
        ∃ claim : MetricHistoryClaim, c = some (.history claim) ∧ claim.targets ≠ [] ∧
          claim.monitoring_source_id = o.monitoring_source_id ∧
          claim.source_instance_generation = o.source_instance_generation ∧
          claim.targets = db.metrics.historyPage domain o.monitoring_source_id o.source_instance_generation
            o.history_item_cursor) := by
  obtain ⟨x, hx, h⟩ := map_ok_iff.1 h
  obtain ⟨rfl, rfl⟩ : x.1.map Claim.history = c ∧ x.2 = db' := Prod.mk.inj h
  unfold claim_metric_history at hx
  split at hx
  · cases hx
  · rename_i o s g hclaimable
    obtain ⟨⟨ho, rfl, hpending, hnone, -⟩, -, -⟩ := claimable_some hclaimable
    refine ⟨o, ho, rfl, ?_⟩
    dsimp only at hx
    split_ifs at hx with hempty
    · rw [← Except.ok.inj hx]
      exact Or.inl ⟨rfl, fun _ => List.isEmpty_iff.1 hempty⟩
    · split at hx
      · rw [← Except.ok.inj hx]
        exact Or.inr ⟨_, rfl, fun hnil => hempty (List.isEmpty_iff.2 hnil), rfl, rfl, rfl⟩
      · rw [← Except.ok.inj hx]
        refine Or.inl ⟨rfl, fun hsucceeded => ?_⟩
        have hrunning := markRunning_stateOf hkeyed now ho hpending hnone token
        rw [show _ = _ from hsucceeded] at hrunning
        cases hrunning

/-- What the completion of a page queues. -/
theorem complete_history_next {claim : MetricHistoryClaim} {result : MetricHistoryResult}
    {raw_rows : List ZabbixHistoryEvidence} {db' : SyncDb} (hsucceeded : result.succeeded = true)
    (h : complete domain now (.history claim) (.history result raw_rows) db = .ok db') :
    (claim.targets.length = domain.max_history_items_per_request ∧
        ∃ r : OperationRequest, queuedBy db db' = some r ∧ r.monitoring_source_id = claim.monitoring_source_id ∧
          r.source_instance_generation = claim.source_instance_generation ∧
          r.history_item_cursor = nextCursor claim.targets) ∨
      queuedBy db db' = none ∧
        (claim.targets ≠ [] → claim.targets.length = domain.max_history_items_per_request →
          ∀ x ∈ db.metrics.pollable claim.monitoring_source_id claim.source_instance_generation,
            ¬nextCursor claim.targets < itemRef x) := by
  obtain ⟨-, s, -, hchain⟩ := complete_metric_history_ok h
  have hfinish : (db.core.finish now claim.toSyncClaim result.toSyncResult
      (result.failure_class.map MetricHistoryFailureClass.value) "metric_history" (fun s => s) fun o => o).requests =
      db.core.requests := requests_of_update (finish_operations ..) fun _ => rfl
  rcases chainHistory_next hchain with ⟨-, hfull, -, r, hsource, hgeneration, hcursor, hreq⟩ | ⟨hlast, rfl⟩
  · refine Or.inl ⟨hfull, r, ?_, hsource, hgeneration, hcursor⟩
    rw [queuedBy, hreq, hfinish, List.getElem?_append_right le_rfl, Nat.sub_self]
    rfl
  · refine Or.inr ⟨?_, hlast hsucceeded⟩
    rw [queuedBy]
    exact List.getElem?_eq_none_iff.2 (congrArg List.length hfinish).le

/-! ### A chain of pages -/

/-- From a state, a run works through the pages that begin with an operation: the claims of its pages, and the
operation that is left to do. -/
inductive HistoryChain (domain : Domain) :
    System → String → List Action → List MetricHistoryClaim → Option String → Prop
  /-- The page is not claimed, or its claim is under way. -/
  | waiting {s : System} {op_id : String} {run : List Action} : HistoryChain domain s op_id run [] (some op_id)
  /-- The claim finds no target, and the operation succeeds. -/
  | exhausted {s : System} {op_id token : String} {now : Timestamp} {before post : List Action} {db : SyncDb}
      (claimed : claim domain now .history op_id token (before.foldl (System.step domain) s).db = .ok (none, db))
      (succeeded : db.core.stateOf op_id = some .succeeded) :
      HistoryChain domain s op_id (before ++ .claim now .history op_id token :: post) [] none
  /-- The page is claimed, its claim is committed as a success, and the chain goes on with what this queued. -/
  | page {s t : System} {op_id token : String} {now : Timestamp} {before mid post : List Action} {a : Action} {db : SyncDb}
      {c : MetricHistoryClaim} {result : MetricHistoryResult} {raw_rows : List ZabbixHistoryEvidence}
      {next : OperationRequest} {claims : List MetricHistoryClaim} {rest : Option String}
      (claimed : claim domain now .history op_id token (before.foldl (System.step domain) s).db =
        .ok (some (.history c), db))
      (reached : (before ++ .claim now .history op_id token :: mid).foldl (System.step domain) s = t)
      (committed : t.Commits domain a (.history c) (.history result raw_rows)) (succeeded : result.succeeded = true)
      (queued : queuedBy t.db (t.step domain a).db = some next)
      (chain : HistoryChain domain (t.step domain a) next.monitoring_sync_operation_id post claims rest) :
      HistoryChain domain s op_id (before ++ .claim now .history op_id token :: mid ++ a :: post) (c :: claims) rest
  /-- So is the last page, which queues nothing. -/
  | last {s t : System} {op_id token : String} {now : Timestamp} {before mid post : List Action} {a : Action} {db : SyncDb}
      {c : MetricHistoryClaim} {result : MetricHistoryResult} {raw_rows : List ZabbixHistoryEvidence}
      (claimed : claim domain now .history op_id token (before.foldl (System.step domain) s).db =
        .ok (some (.history c), db))
      (reached : (before ++ .claim now .history op_id token :: mid).foldl (System.step domain) s = t)
      (committed : t.Commits domain a (.history c) (.history result raw_rows)) (succeeded : result.succeeded = true)
      (queued : queuedBy t.db (t.step domain a).db = none) :
      HistoryChain domain s op_id (before ++ .claim now .history op_id token :: mid ++ a :: post) [c] none

/-- What the claims of a chain are to the rows behind its first cursor. -/
structure Covers (rows : List (MetricDefinition × ItemBinding)) (cursor : String) (claims : List MetricHistoryClaim)
    (rest : Option String) : Prop where
  visited : claims.flatMap (·.targets) <+: (after itemRef rows cursor).filterMap historyTarget
  ended : rest = none → claims.flatMap (·.targets) = (after itemRef rows cursor).filterMap historyTarget
  cursors : (cursor :: claims.map fun c => nextCursor c.targets).IsChain (· < ·)
  nonempty : ∀ c ∈ claims, c.targets ≠ []

section Covers

variable {rows : List (MetricDefinition × ItemBinding)} {size : ℕ} {cursor : String} {c : MetricHistoryClaim}
  {claims : List MetricHistoryClaim} {rest : Option String}

theorem exists_last (htargets : c.targets = (page itemRef size rows cursor).filterMap historyTarget)
    (hne : c.targets ≠ []) : ∃ x, x ∈ (page itemRef size rows cursor).getLast? := by
  have hpage : page itemRef size rows cursor ≠ [] := fun hnil => hne (by rw [htargets, hnil, List.filterMap_nil])
  exact ⟨_, List.getLast?_eq_some_getLast hpage⟩

theorem cursor_lt (hrows : Ordered itemRef rows)
    (htargets : c.targets = (page itemRef size rows cursor).filterMap historyTarget) (hne : c.targets ≠ []) :
    cursor < nextCursor c.targets := by
  obtain ⟨x, hx⟩ := exists_last htargets hne
  rw [htargets, nextCursor_page hrows hx]
  exact lt_of_mem_page (List.mem_of_getLast? hx)

/-- A page before a chain. -/
theorem Covers.page (hrows : Ordered itemRef rows)
    (htargets : c.targets = (page itemRef size rows cursor).filterMap historyTarget) (hne : c.targets ≠ [])
    (h : Covers rows (nextCursor c.targets) claims rest) : Covers rows cursor (c :: claims) rest := by
  obtain ⟨x, hx⟩ := exists_last htargets hne
  have hsplit : (after itemRef rows cursor).filterMap historyTarget =
      c.targets ++ (after itemRef rows (nextCursor c.targets)).filterMap historyTarget := by
    rw [← page_append_after hrows hx, List.filterMap_append, ← htargets, htargets, nextCursor_page hrows hx]
  refine ⟨?_, fun hrest => ?_, ?_, ?_⟩
  · rw [hsplit, List.flatMap_cons]
    exact (List.prefix_append_right_inj _).2 h.visited
  · rw [hsplit, List.flatMap_cons, h.ended hrest]
  · rw [List.map_cons]
    exact List.isChain_cons_cons.2 ⟨cursor_lt hrows htargets hne, h.cursors⟩
  · exact List.forall_mem_cons.2 ⟨hne, h.nonempty⟩

theorem Covers.last (hrows : Ordered itemRef rows)
    (htargets : c.targets = (Foundations.page itemRef size rows cursor).filterMap historyTarget) (hne : c.targets ≠ [])
    (hlast : Foundations.page itemRef size rows cursor = after itemRef rows cursor) : Covers rows cursor [c] none := by
  have hall : [c].flatMap (·.targets) = (after itemRef rows cursor).filterMap historyTarget := by
    rw [List.flatMap_singleton, htargets, hlast]
  refine ⟨hall ▸ List.prefix_rfl, fun _ => hall, ?_, ?_⟩
  · exact List.isChain_cons_cons.2 ⟨cursor_lt hrows htargets hne, List.isChain_singleton _⟩
  · exact List.forall_mem_singleton.2 hne

end Covers

variable {bridge : BridgeVersion} {run run' : List Action} {r : OperationRequest}

theorem request_of_claimed {o : OperationRow} (hr : r ∈ (System.exec domain bridge run).db.core.requests)
    (ho : o ∈ (run'.foldl (System.step domain) (System.exec domain bridge run)).db.core.operations)
    (hid : o.monitoring_sync_operation_id = r.monitoring_sync_operation_id) : o.request = r := by
  have hkeyed : (run'.foldl (System.step domain) (System.exec domain bridge run)).db.core.Keyed := by
    rw [System.exec, ← List.foldl_append]
    exact (inStep_exec bridge (run ++ run')).keyed
  obtain ⟨o', ho', rfl⟩ := List.mem_map.1 ((requests_foldl domain _ run').subset hr)
  rw [eq_of_key hkeyed.operations ho ho' hid]

/-- A page that is claimed is the page behind the cursor of its request. -/
theorem claimed_page {token : String} {c : MetricHistoryClaim}
    (hr : r ∈ (System.exec domain bridge run).db.core.requests)
    (h : claim domain now .history r.monitoring_sync_operation_id token
      (run'.foldl (System.step domain) (System.exec domain bridge run)).db = .ok (some (.history c), db)) :
    c.monitoring_source_id = r.monitoring_source_id ∧ c.source_instance_generation = r.source_instance_generation ∧
      c.targets ≠ [] ∧
      c.targets = (page itemRef domain.max_history_items_per_request
        ((run'.foldl (System.step domain) (System.exec domain bridge run)).db.metrics.pollable r.monitoring_source_id
          r.source_instance_generation) r.history_item_cursor).filterMap historyTarget := by
  have hkeyed : (run'.foldl (System.step domain) (System.exec domain bridge run)).db.core.Keyed := by
    rw [System.exec, ← List.foldl_append]
    exact (inStep_exec bridge (run ++ run')).keyed
  obtain ⟨o, ho, hid, ⟨hnone, -⟩ | ⟨c', heq, hne, hsource, hgeneration, htargets⟩⟩ := claim_history_ok hkeyed h
  · cases hnone
  · obtain rfl := request_of_claimed hr ho hid
    cases heq
    exact ⟨hsource, hgeneration, hne, htargets⟩

/-- Where the operation of a request is claimed without a target, and succeeds, the page is empty. -/
theorem exhausted_page {token : String} (hr : r ∈ (System.exec domain bridge run).db.core.requests)
    (h : claim domain now .history r.monitoring_sync_operation_id token
      (run'.foldl (System.step domain) (System.exec domain bridge run)).db = .ok (none, db))
    (hsucceeded : db.core.stateOf r.monitoring_sync_operation_id = some .succeeded) :
    page itemRef domain.max_history_items_per_request
      ((run'.foldl (System.step domain) (System.exec domain bridge run)).db.metrics.pollable r.monitoring_source_id
        r.source_instance_generation) r.history_item_cursor = [] := by
  have hkeyed : (run'.foldl (System.step domain) (System.exec domain bridge run)).db.core.Keyed := by
    rw [System.exec, ← List.foldl_append]
    exact (inStep_exec bridge (run ++ run')).keyed
  obtain ⟨o, ho, hid, ⟨-, hempty⟩ | ⟨c, hnone, -⟩⟩ := claim_history_ok hkeyed h
  · obtain rfl := request_of_claimed hr ho hid
    exact List.length_eq_zero_iff.1 ((targets_length _).symm.trans (congrArg List.length (hempty hsucceeded)))
  · cases hnone

/-- What a chain visits: the items behind the cursor of its first operation, as long as they stay. -/
theorem chain_covers {s : System} {op_id : String} {claims : List MetricHistoryClaim} {rest : Option String}
    (hsize : 0 < domain.max_history_items_per_request) (h : HistoryChain domain s op_id run claims rest)
    {base : List Action} (hs : s = System.exec domain bridge base) (hr : r ∈ s.db.core.requests)
    (hid : r.monitoring_sync_operation_id = op_id) {eligible : List (MetricDefinition × ItemBinding)}
    (hfixed : ∀ pre, pre <+: run →
      (pre.foldl (System.step domain) s).db.metrics.pollable r.monitoring_source_id r.source_instance_generation =
        eligible) : Covers eligible r.history_item_cursor claims rest := by
  have hordered : Ordered itemRef eligible := by
    rw [← hfixed [] List.nil_prefix, hs]
    exact (copied_exec domain bridge base).pollable_ordered _ _
  induction h generalizing base r with
  | waiting =>
    exact ⟨List.nil_prefix, fun h => (Option.some_ne_none _ h).elim, List.isChain_singleton _, by simp⟩
  | @exhausted s op_id token now before post db hclaimed hsucceeded =>
    subst hs hid
    have hnil := exhausted_page hr hclaimed hsucceeded
    rw [hfixed before (List.prefix_append _ _)] at hnil
    have hafter : after itemRef eligible r.history_item_cursor = [] := by
      rw [← page_of_short (by rw [hnil]; exact hsize), hnil]
    exact ⟨List.nil_prefix, fun _ => by rw [hafter]; rfl, List.isChain_singleton _, by simp⟩
  | @page s t op_id token now before mid post a db c result raw_rows next claims rest hclaimed hreached hcommitted
      hsucceeded hqueued _ ih =>
    subst hs hid
    obtain ⟨hsource, hgeneration, hne, htargets⟩ := claimed_page hr hclaimed
    rw [hfixed before ⟨.claim now .history r.monitoring_sync_operation_id token :: mid ++ a :: post, by simp⟩] at htargets
    obtain ⟨now', n, -, -, hcomplete⟩ := commits_iff.1 hcommitted
    rcases complete_history_next hsucceeded hcomplete with ⟨-, r', hr', hsource', hgeneration', hcursor⟩ | ⟨hnone, -⟩
    · obtain rfl : r' = next := Option.some.inj (hr'.symm.trans hqueued)
      have hstep : t.step domain a = System.exec domain bridge
          (base ++ (before ++ .claim now .history r.monitoring_sync_operation_id token :: mid ++ [a])) := by
        rw [← hreached]
        simp only [System.exec, List.foldl_append, List.foldl_cons, List.foldl_nil]
      have hcovers := ih hstep (List.mem_of_getElem? hr') rfl fun pre hpre => by
        rw [hsource'.trans hsource, hgeneration'.trans hgeneration, ← hfixed (before ++ .claim now .history
          r.monitoring_sync_operation_id token :: mid ++ a :: pre)
          ((List.prefix_append_right_inj _).2 (List.cons_prefix_cons.2 ⟨rfl, hpre⟩)), ← hreached]
        simp only [List.foldl_append, List.foldl_cons]
      rw [hcursor] at hcovers
      exact hcovers.page hordered htargets hne
    · exact absurd (hnone.symm.trans hqueued) (Option.some_ne_none _).symm
  | @last s t op_id token now before mid post a db c result raw_rows hclaimed hreached hcommitted hsucceeded hqueued =>
    subst hs hid
    obtain ⟨hsource, hgeneration, hne, htargets⟩ := claimed_page hr hclaimed
    rw [hfixed before ⟨.claim now .history r.monitoring_sync_operation_id token :: mid ++ a :: post, by simp⟩] at htargets
    obtain ⟨now', n, -, -, hcomplete⟩ := commits_iff.1 hcommitted
    rcases complete_history_next hsucceeded hcomplete with ⟨-, r', hr', -⟩ | ⟨-, hlast⟩
    · exact absurd (hqueued.symm.trans hr') (Option.some_ne_none _).symm
    · refine Covers.last hordered htargets hne ?_
      rw [hsource, hgeneration, ← hreached, hfixed _ ((List.prefix_append _ _))] at hlast
      by_cases hfull : (Foundations.page itemRef domain.max_history_items_per_request eligible
          r.history_item_cursor).length < domain.max_history_items_per_request
      · exact page_of_short hfull
      · obtain ⟨x, hx⟩ := exists_last htargets hne
        have hlength : c.targets.length = domain.max_history_items_per_request := by
          rw [htargets, targets_length]
          exact le_antisymm (List.length_take_le _ _) (not_lt.1 hfull)
        refine page_of_last hordered hx fun y hy => ?_
        rw [← nextCursor_page hordered hx, ← htargets]
        exact hlast hne hlength y hy

theorem length_le_targets {claims : List MetricHistoryClaim} (h : ∀ c ∈ claims, c.targets ≠ []) :
    claims.length ≤ (claims.flatMap (·.targets)).length := by
  induction claims with
  | nil => exact Nat.zero_le _
  | cons c claims ih =>
    have hc : 0 < c.targets.length := List.length_pos_iff.2 (h c List.mem_cons_self)
    have hrest := ih fun c' hc' => h c' (List.mem_cons_of_mem c hc')
    rw [List.flatMap_cons, List.length_append, List.length_cons]
    omega

/-- **Key result**: while the items stay as they are, a chain from the empty cursor visits them in order, each once; its
cursors increase, it has no more pages than there are items, and when it ends it has visited all. The provider gives
no item the empty id. -/
theorem history_chain_covers (domain : Domain) (bridge : BridgeVersion) (base run : List Action)
    (hsize : 0 < domain.max_history_items_per_request) (r : OperationRequest)
    (hr : r ∈ (System.exec domain bridge base).db.core.requests) (hcursor : r.history_item_cursor = "")
    (eligible : List (MetricDefinition × ItemBinding)) (hids : ∀ x ∈ eligible, itemRef x ≠ "")
    (hfixed : ∀ pre, pre <+: run → (System.exec domain bridge (base ++ pre)).db.metrics.pollable r.monitoring_source_id
      r.source_instance_generation = eligible)
    (claims : List MetricHistoryClaim) (rest : Option String)
    (hchain : HistoryChain domain (System.exec domain bridge base) r.monitoring_sync_operation_id run claims rest) :
    claims.flatMap (·.targets) <+: eligible.filterMap historyTarget ∧
      ((claims.flatMap (·.targets)).map (·.provider_external_ref)).Nodup ∧
      ("" :: claims.map fun c => nextCursor c.targets).Pairwise (· < ·) ∧ claims.length ≤ eligible.length ∧
      (rest = none → claims.flatMap (·.targets) = eligible.filterMap historyTarget ∧
        (claims.flatMap (·.targets)).map (·.provider_external_ref) = eligible.map itemRef) := by
  have hfixed' : ∀ pre, pre <+: run → (pre.foldl (System.step domain) (System.exec domain bridge base)).db.metrics.pollable
      r.monitoring_source_id r.source_instance_generation = eligible := fun pre hpre => by
    rw [← hfixed pre hpre, System.exec, System.exec, List.foldl_append]
  have hcovers := chain_covers hsize hchain rfl hr rfl hfixed'
  have hall : after itemRef eligible "" = eligible := List.filter_eq_self.2 fun x hx =>
    decide_eq_true (lt_of_le_of_ne (empty_le _) (hids x hx).symm)
  rw [hcursor] at hcovers
  have hvisited := hcovers.visited
  rw [hall] at hvisited
  have hordered : Ordered itemRef eligible := by
    rw [← hfixed' [] List.nil_prefix]
    exact (copied_exec domain bridge base).pollable_ordered _ _
  refine ⟨hvisited, ?_, List.isChain_iff_pairwise.1 hcovers.cursors, ?_, fun hrest => ?_⟩
  · refine (hvisited.sublist.map _).nodup ?_
    rw [targets_refs]
    exact (List.pairwise_map.2 hordered).imp fun hlt => hlt.ne
  · calc claims.length ≤ (claims.flatMap (·.targets)).length := length_le_targets hcovers.nonempty
      _ ≤ (eligible.filterMap historyTarget).length := hvisited.length_le
      _ = eligible.length := targets_length eligible
  · have hended := hcovers.ended hrest
    rw [hall] at hended
    exact ⟨hended, by rw [hended, targets_refs]⟩

/-! ### Runs -/

/-- One item a page. -/
def onePerPage : Domain := { Domain.tested with max_history_items_per_request := 1 }

/-- A source with two items, and a history operation that is queued for it. -/
def twoItems : List Action :=
  [.createSource 0 "zabbix" "https://zabbix" "cred", .enqueue 1 .host_inventory_sync "mon-src_0",
    .claim 2 .inventory "mon-sync_4" "token-1",
    .complete 3 0 (.inventory { SyncResult.ok _ with snapshot_complete := true, hosts := [⟨"10101"⟩] } "inventory-1"),
    .enqueueDefinitions 4 "mon-src_0", .claim 5 .definitions "mon-sync_7" "token-2",
    .complete 6 1 (.definitions { SyncResult.ok _ with
      snapshot_complete := true
      items := [sampleItem .float, { sampleItem .float with itemid := "42425" }] } "definitions-1"),
    .enqueueHistory 7 100 200 "mon-src_0"]

/-- A page without rows. -/
def emptyPage : MetricHistoryResult := { SyncResult.ok _ with coverage_state := .finalized }

/-- The two pages of `twoItems`. -/
def twoPages : List Action :=
  [.claim 8 .history "mon-sync_12" "token-3", .complete 9 2 (.history emptyPage []),
    .claim 10 .history "mon-op_13" "token-4", .complete 11 3 (.history emptyPage [])]

/-- What is claimed for one of them. -/
def pageClaim (claim_token op_id definition_id itemid : String) : MetricHistoryClaim where
  claim_token := claim_token
  monitoring_sync_operation_id := op_id
  monitoring_source_id := "mon-src_0"
  source_instance_generation := "mon-gen_1"
  configuration_revision := 1
  scope_revision := 1
  provider_instance_ref := "zabbix"
  provider_base_url := "https://zabbix"
  credential_binding_ref := "cred"
  targets := [⟨definition_id, "mon-res_5", itemid, .number, 0⟩]
  window := ⟨100, 200⟩

/-- `twoPages` is a chain that ends. -/
theorem twoPages_chain :
    HistoryChain onePerPage (System.exec onePerPage .publicationBridge twoItems) "mon-sync_12" twoPages
      [pageClaim "token-3" "mon-sync_12" "mon-def_8" "42424", pageClaim "token-4" "mon-op_13" "mon-def_10" "42425"]
      none := by
  have hlast : HistoryChain onePerPage
      (System.exec onePerPage .publicationBridge (twoItems ++ twoPages.take 2)) "mon-op_13" (twoPages.drop 2)
      [pageClaim "token-4" "mon-op_13" "mon-def_10" "42425"] none :=
    @HistoryChain.last _ _ _ _ _ _ [] [] [] (.complete 11 3 (.history emptyPage [])) _ _ emptyPage [] rfl rfl rfl rfl rfl
  exact @HistoryChain.page _ _ _ _ _ _ [] [] (twoPages.drop 2) (.complete 9 2 (.history emptyPage [])) _ _ emptyPage []
    ⟨"mon-op_13", "mon-src_0", "mon-gen_1", .metric_history_sync, 9, some 100, some 200, "42424"⟩ _ _
    rfl rfl rfl rfl rfl hlast

theorem twoPages_fixed (pre : List Action) (h : pre <+: twoPages) :
    (System.exec onePerPage .publicationBridge (twoItems ++ pre)).db.metrics.pollable "mon-src_0" "mon-gen_1" =
      (System.exec onePerPage .publicationBridge twoItems).db.metrics.pollable "mon-src_0" "mon-gen_1" := by
  have hinits := (List.mem_inits pre twoPages).2 h
  simp only [twoPages, List.inits, List.map_cons, List.map_nil, List.mem_cons, List.not_mem_nil, or_false] at hinits
  rcases hinits with rfl | rfl | rfl | rfl | rfl <;> rfl

/-- It visits what may be polled. -/
theorem twoPages_covers :
    (([pageClaim "token-3" "mon-sync_12" "mon-def_8" "42424", pageClaim "token-4" "mon-op_13" "mon-def_10" "42425"].flatMap
      (·.targets)).map (·.provider_external_ref)) =
        ((System.exec onePerPage .publicationBridge twoItems).db.metrics.pollable "mon-src_0" "mon-gen_1").map itemRef :=
  ((history_chain_covers onePerPage .publicationBridge twoItems twoPages (by decide)
    ⟨"mon-sync_12", "mon-src_0", "mon-gen_1", .metric_history_sync, 7, some 100, some 200, ""⟩ (by decide) rfl _ (by decide)
    twoPages_fixed _ _ twoPages_chain).2.2.2.2 rfl).2

end Sync

end JLMirror.Monitoring
