import JLMirror.Monitoring.SyncSystem
import Mathlib.Data.List.Range

/-!
# The order of the slot polls

The polls of definitions and of current states have slots: a source counts the completed ones within an
epoch, an operation is queued for the next slot, and its completion consumes it. Claims, completions, the
reaper and operators meet in any order; the fence of a completion is what keeps them apart.

## The model

* `slotClaim` is what a claim of either kind says of its slot.
* `Held` is the fence: the operation runs under the token of the claim, and the source has the authority that it
  was claimed under.
* `consumed` are the generations that the committed completions of an epoch consumed, in order.

## What is proved

* `Kept`, `Quiet`: what a transaction does to operations and slots, one lemma for each transaction.
* `step_slots`: a step leaves the slots alone, consumes the next one of one source, creates a source, or starts a
  later epoch.
* **Key result** (`strict_poll_order`): in every run, a completion that does not hold its claim changes nothing, one
  that does moves its slot by one, and the generations consumed in an epoch are consecutive, up to that of the
  source.
-/

namespace JLMirror.Monitoring

open JLMirror.Foundations Sync

/-! ### Slots -/

/-- A claim of a poll with a slot. -/
structure SlotClaim extends SyncClaim where
  kind : SlotKind
  epoch : ℕ
  generation : ℕ

/-- What a claim says of its slot. -/
def slotClaim : Claim → Option SlotClaim
  | .definitions c =>
    some ⟨c.toSyncClaim, .item_definition, c.item_definition_poll_epoch, c.item_definition_poll_generation⟩
  | .currentState c =>
    some ⟨c.toSyncClaim, .current_state, c.current_state_poll_epoch, c.current_state_poll_generation⟩
  | _ => none

/-- Epoch and completed generation of a source. -/
def CoreTables.slotAt (c : CoreTables) (kind : SlotKind) (source_id : String) : Option (ℕ × ℕ) :=
  (c.source source_id).map fun s => slotOf s kind

/-- The operation runs under the claim, and the source is as it was claimed. -/
structure CoreTables.Held (c : CoreTables) (p : SlotClaim) : Prop where
  operation : ∃ o ∈ c.operations, o.monitoring_sync_operation_id = p.monitoring_sync_operation_id ∧
    o.state = .running ∧ o.claim_token = some p.claim_token
  source : ∃ s ∈ c.sources, s.monitoring_source_id = p.monitoring_source_id ∧
    s.active_source_instance_generation = p.source_instance_generation ∧
    s.configuration_revision = p.configuration_revision ∧ s.scope_revision = p.scope_revision

/-- The unique keys. -/
structure CoreTables.Keyed (c : CoreTables) : Prop where
  operations : (c.operations.map (·.monitoring_sync_operation_id)).Nodup
  sources : (c.sources.map (·.monitoring_source_id)).Nodup

/-! ### What a transaction does to operations and slots -/

/-- The keys are still unique, and every operation is still there, of the same source. -/
structure Kept (c c' : CoreTables) : Prop where
  keyed : c.Keyed → c'.Keyed
  owner : ∀ o ∈ c.operations, ∃ o' ∈ c'.operations,
    o'.monitoring_sync_operation_id = o.monitoring_sync_operation_id ∧ o'.monitoring_source_id = o.monitoring_source_id

/-- And no slot moves. -/
structure Quiet (c c' : CoreTables) : Prop extends Kept c c' where
  slots : ∀ kind source_id, c'.slotAt kind source_id = c.slotAt kind source_id

theorem Quiet.refl (c : CoreTables) : Quiet c c := ⟨⟨id, fun o ho => ⟨o, ho, rfl, rfl⟩⟩, fun _ _ => rfl⟩

variable {c : CoreTables}

theorem Quiet.trans {d e : CoreTables} (h : Quiet c d) (h' : Quiet d e) : Quiet c e := by
  refine ⟨⟨h'.keyed ∘ h.keyed, fun o ho => ?_⟩, fun kind source_id => (h'.slots kind source_id).trans (h.slots kind source_id)⟩
  obtain ⟨o', ho', hid, hsource⟩ := h.owner o ho
  obtain ⟨o'', ho'', hid', hsource'⟩ := h'.owner o' ho'
  exact ⟨o'', ho'', hid'.trans hid, hsource'.trans hsource⟩

variable {c' : CoreTables} {p : OperationRow → Bool} {f : OperationRow → OperationRow} {q : SourceRow → Bool}
  {g : SourceRow → SourceRow} {l : List OperationRow}

/-- Two updates and an insert keep the keys, where they do not set them. -/
theorem Kept.of_updates (hops : c'.operations = updateWhere p f c.operations ++ l)
    (hsrc : c'.sources = updateWhere q g c.sources)
    (hf : ∀ o, (f o).monitoring_sync_operation_id = o.monitoring_sync_operation_id ∧
      (f o).monitoring_source_id = o.monitoring_source_id)
    (hg : ∀ s, (g s).monitoring_source_id = s.monitoring_source_id) (hlen : l.length ≤ 1)
    (hnew : ∀ o ∈ l, ∀ r ∈ c.operations, r.monitoring_sync_operation_id ≠ o.monitoring_sync_operation_id) :
    Kept c c' := by
  refine ⟨fun h => ⟨?_, ?_⟩, fun o ho => ?_⟩
  · rw [hops, List.map_append, map_updateWhere fun o => (hf o).1]
    refine List.nodup_append.2 ⟨h.operations, nodup_map_of_length_le_one _ hlen, ?_⟩
    rintro _ hx _ hy rfl
    obtain ⟨r, hr, hrid⟩ := List.mem_map.1 hx
    obtain ⟨o, ho, hoid⟩ := List.mem_map.1 hy
    exact hnew o ho r hr (hrid.trans hoid.symm)
  · rw [hsrc, map_updateWhere hg]
    exact h.sources
  · refine ⟨_, hops ▸ List.mem_append_left _ (mem_updateWhere.2 ⟨o, ho, rfl⟩), ?_⟩
    split_ifs
    · exact hf o
    · exact ⟨rfl, rfl⟩

theorem slotAt_updateWhere {d : CoreTables} (hsrc : d.sources = updateWhere q g c.sources)
    (hg : ∀ s, (g s).monitoring_source_id = s.monitoring_source_id) (kind : SlotKind) (source_id : String) :
    d.slotAt kind source_id = (c.source source_id).map fun s => slotOf (if q s then g s else s) kind := by
  rw [CoreTables.slotAt, CoreTables.source, hsrc, find?_updateWhere fun s _ => by rw [hg], Option.map_map]
  rfl

theorem Quiet.of_updates (hops : c'.operations = updateWhere p f c.operations ++ l)
    (hsrc : c'.sources = updateWhere q g c.sources)
    (hf : ∀ o, (f o).monitoring_sync_operation_id = o.monitoring_sync_operation_id ∧
      (f o).monitoring_source_id = o.monitoring_source_id)
    (hg : ∀ s, (g s).monitoring_source_id = s.monitoring_source_id)
    (hslots : ∀ s kind, slotOf (g s) kind = slotOf s kind) (hlen : l.length ≤ 1)
    (hnew : ∀ o ∈ l, ∀ r ∈ c.operations, r.monitoring_sync_operation_id ≠ o.monitoring_sync_operation_id) :
    Quiet c c' := by
  refine ⟨.of_updates hops hsrc hf hg hlen hnew, fun kind source_id => ?_⟩
  rw [slotAt_updateWhere hsrc hg, CoreTables.slotAt]
  congr 1
  funext s
  split_ifs
  · exact hslots s kind
  · rfl

theorem Quiet.of_operations (hops : c'.operations = updateWhere p f c.operations ++ l) (hsrc : c'.sources = c.sources)
    (hf : ∀ o, (f o).monitoring_sync_operation_id = o.monitoring_sync_operation_id ∧
      (f o).monitoring_source_id = o.monitoring_source_id) (hlen : l.length ≤ 1)
    (hnew : ∀ o ∈ l, ∀ r ∈ c.operations, r.monitoring_sync_operation_id ≠ o.monitoring_sync_operation_id) :
    Quiet c c' :=
  .of_updates (q := fun _ => false) (g := id) hops (hsrc.trans (updateWhere_of_none fun _ _ => rfl).symm) hf
    (fun _ => rfl) (fun _ _ => rfl) hlen hnew

theorem Quiet.of_sources (hops : c'.operations = c.operations) (hsrc : c'.sources = updateWhere q g c.sources)
    (hg : ∀ s, (g s).monitoring_source_id = s.monitoring_source_id)
    (hslots : ∀ s kind, slotOf (g s) kind = slotOf s kind) : Quiet c c' :=
  .of_updates (p := fun _ => false) (f := id) (l := [])
    (by rw [hops, List.append_nil, updateWhere_of_none fun _ _ => rfl]) hsrc (fun _ => ⟨rfl, rfl⟩) hg hslots
    (Nat.zero_le 1) (by simp)

theorem Quiet.of_eq (hops : c'.operations = c.operations) (hsrc : c'.sources = c.sources) : Quiet c c' :=
  .of_sources (q := fun _ => false) (g := id) hops (hsrc.trans (updateWhere_of_none fun _ _ => rfl).symm)
    (fun _ => rfl) (fun _ _ => rfl)

/-! ### The transactions -/

section Transactions

variable {domain : Domain} {now : Timestamp}

variable {db db' : SyncDb}

theorem insertOperation_quiet {kind : String} {row : String → OperationRow}
    (hrow : ∀ id, (row id).monitoring_sync_operation_id = id) (h : db.insertOperation kind row = .ok db') :
    Quiet db.core db'.core := by
  obtain ⟨hnew, rfl⟩ := insertOperation_ok h
  refine .of_operations (p := fun _ => false) (f := id) (l := [row (opaqueId kind db.nextId)]) ?_ rfl
    (fun _ => ⟨rfl, rfl⟩) le_rfl ?_
  · rw [updateWhere_of_none fun _ _ => rfl]
  · simpa [hrow] using hnew

theorem enqueue_quiet {kind : ResponsibilityKind} {set : SourceRow → OperationRow → OperationRow} {source_id : String}
    (h : db.enqueue now kind set source_id = .ok db')
    (hset : ∀ s o, (set s o).monitoring_sync_operation_id = o.monitoring_sync_operation_id) :
    Quiet db.core db'.core := by
  obtain ⟨s, -, h⟩ := enqueue_ok h
  exact insertOperation_quiet (fun id => (hset s _).trans rfl) h

theorem markRunning_quiet (now : Timestamp) (op_id claim_token : String) (c : CoreTables) :
    Quiet c (c.markRunning now op_id claim_token) :=
  .of_operations (l := []) (List.append_nil _).symm rfl (fun _ => ⟨rfl, rfl⟩) (Nat.zero_le 1) (by simp)

theorem succeedEmpty_quiet (op_id claim_token : String) (c : CoreTables) :
    Quiet c (c.succeedEmpty now op_id claim_token) :=
  .of_operations (l := []) (List.append_nil _).symm rfl (fun _ => ⟨rfl, rfl⟩) (Nat.zero_le 1) (by simp)

theorem requeue_quiet (source_id op_id : String) (c : CoreTables) :
    Quiet c (requeue_sync_operation source_id op_id c).2 := by
  unfold requeue_sync_operation
  dsimp only
  split_ifs
  · exact .of_updates (l := []) (List.append_nil _).symm rfl (fun _ => ⟨rfl, rfl⟩) (fun _ => rfl)
      (fun s kind => by cases kind <;> rfl) (Nat.zero_le 1) (by simp)
  · exact .of_operations (l := []) (List.append_nil _).symm rfl (fun _ => ⟨rfl, rfl⟩) (Nat.zero_le 1) (by simp)

theorem recoveryPass_quiet (cfg : RecoveryConfig) (slots : ℕ) (c : CoreTables) :
    Quiet c (recoveryPass cfg now slots c) := by
  refine recoveryPass_rel cfg now slots c .refl .trans requeue_quiet fun p f c _ hf => ?_
  refine .of_operations (l := []) (List.append_nil _).symm rfl (fun o => ?_) (Nat.zero_le 1) (by simp)
  rw [(hf o).2]
  exact ⟨rfl, rfl⟩

theorem moveAuthority_quiet (source_id : String) (a : Authority) (g : SourceGeneration) (c : CoreTables) :
    Quiet c (moveAuthority source_id a g c) :=
  .of_sources rfl rfl (fun _ => rfl) fun s kind => by cases kind <;> rfl

variable {record : OperationRow → OperationRow}

theorem finish_quiet {φ : Type} (claim : SyncClaim) (result : SyncResult φ) (error : Option String) (kind : String)
    (c : CoreTables) (hrecord : ∀ o, (record o).monitoring_sync_operation_id = o.monitoring_sync_operation_id ∧
      (record o).monitoring_source_id = o.monitoring_source_id) :
    Quiet c (c.finish now claim result error kind (fun s => s) record) :=
  .of_updates (l := []) ((finish_operations ..).trans (List.append_nil _).symm) (finish_sources ..)
    (fun o => hrecord _) (fun _ => rfl) (fun s kind => by cases kind <;> rfl) (Nat.zero_le 1) (by simp)

variable {slot : SourceRow → SourceRow}

theorem finish_kept {φ : Type} (claim : SyncClaim) (result : SyncResult φ) (error : Option String) (kind : String)
    (c : CoreTables) (hrecord : ∀ o, (record o).monitoring_sync_operation_id = o.monitoring_sync_operation_id ∧
      (record o).monitoring_source_id = o.monitoring_source_id)
    (hslot : ∀ s, (slot s).monitoring_source_id = s.monitoring_source_id) :
    Kept c (c.finish now claim result error kind slot record) :=
  .of_updates (l := []) ((finish_operations ..).trans (List.append_nil _).symm) (finish_sources ..)
    (fun o => hrecord _) (fun s => hslot _) (Nat.zero_le 1) (by simp)

/-- The slots after a completion that sets the generation of one kind. -/
theorem finish_slotAt {φ : Type} (claim : SyncClaim) (result : SyncResult φ) (error : Option String)
    (operation_kind : String) (c : CoreTables) (kind : SlotKind) (generation : ℕ)
    (hid : ∀ s, (slot s).monitoring_source_id = s.monitoring_source_id)
    (hslot : ∀ s kind', slotOf (slot s) kind' = if kind' = kind then ((slotOf s kind).1, generation) else slotOf s kind')
    (kind' : SlotKind) (source_id : String) :
    (c.finish now claim result error operation_kind slot record).slotAt kind' source_id =
      if kind' = kind ∧ source_id = claim.monitoring_source_id then
        (c.slotAt kind source_id).map fun x => (x.1, generation)
      else c.slotAt kind' source_id := by
  rw [slotAt_updateWhere (finish_sources ..) (fun s => hid _), CoreTables.slotAt, CoreTables.slotAt]
  cases hs : c.source source_id with
  | none => simp
  | some s =>
    have hsource : s.monitoring_source_id = source_id := by simpa using List.find?_some hs
    by_cases hsel : source_id = claim.monitoring_source_id
    · simp only [Option.map_some, hsource, hsel, decide_true, if_true, hslot, and_true]
      split_ifs <;> simp [slotOf]
    · simp [hsource, hsel]

variable {claim : ProblemStateClaim}

theorem claim_problem_sync_quiet {op_id token : String} (h : claim_problem_sync now op_id token db = .ok (claim, db')) :
    Quiet db.core db'.core := by
  obtain ⟨-, -, -, -, -, hsrc, hops⟩ := claim_problem_sync_core h
  exact .of_updates (l := []) (hops.trans (List.append_nil _).symm) hsrc (fun _ => ⟨rfl, rfl⟩) (fun _ => rfl)
    (fun s kind => by cases kind <;> rfl) (Nat.zero_le 1) (by simp)

theorem complete_problem_sync_quiet {result : ProblemStateResult} {raw_rows : List ZabbixProblemEvidence}
    {recoveries : List ZabbixRecoveryEvidence}
    (h : complete_problem_sync now claim result raw_rows recoveries db = .ok db') : Quiet db.core db'.core := by
  obtain ⟨-, hsrc, -, new, hlen, -, hnew, hops⟩ := complete_problem_sync_core h
  exact .of_updates hops hsrc (fun _ => ⟨rfl, rfl⟩) (fun _ => rfl) (fun s kind => by cases kind <;> rfl) hlen hnew

end Transactions

/-! ### What a step does -/

/-- What becomes of a slot, where no completion consumes it. -/
inductive SlotMove (c c' : CoreTables) (kind : SlotKind) (source_id : String) : Prop where
  /-- It stays. -/
  | same (h : c'.slotAt kind source_id = c.slotAt kind source_id)
  /-- Its source is created. -/
  | created (h : c.slotAt kind source_id = none) (h' : c'.slotAt kind source_id = some (1, 0))
  /-- A later epoch starts. -/
  | epoch {e g e' g' : ℕ} (h : c.slotAt kind source_id = some (e, g)) (h' : c'.slotAt kind source_id = some (e', g'))
      (hlt : e < e')

/-- Keys are kept, and slots move without a completion. -/
structure SlotsMove (c c' : CoreTables) : Prop extends Kept c c' where
  slots : ∀ kind source_id, SlotMove c c' kind source_id

theorem Quiet.moves (h : Quiet c c') : SlotsMove c c' :=
  ⟨h.toKept, fun kind source_id => .same (h.slots kind source_id)⟩

theorem insertZabbixSource_moves {now : Timestamp} {ref url credential : String} {db db' : SyncDb}
    (h : insertZabbixSource now ref url credential db = .ok db') : SlotsMove db.core db'.core := by
  obtain ⟨generations, -, h⟩ := bind_ok_iff.1 h
  obtain ⟨operations, hops, h⟩ := bind_ok_iff.1 h
  obtain ⟨sources, hsrc, h⟩ := bind_ok_iff.1 h
  obtain ⟨hnewop, rfl⟩ := insertUnless_ok_iff.1 hops
  obtain ⟨hnewsrc, rfl⟩ := insertUnless_ok_iff.1 hsrc
  obtain rfl := Except.ok.inj h
  refine ⟨⟨fun hk => ⟨?_, ?_⟩, fun o ho => ⟨o, List.mem_append_left _ ho, rfl, rfl⟩⟩, fun kind source_id => ?_⟩
  · simp only [List.map_append, List.map_cons, List.map_nil]
    refine List.nodup_append.2 ⟨hk.operations, List.nodup_singleton _, ?_⟩
    rintro _ hx _ hy rfl
    obtain ⟨o, ho, hid⟩ := List.mem_map.1 hx
    exact of_decide_eq_false (hnewop o ho) (hid.trans (List.mem_singleton.1 hy))
  · simp only [List.map_append, List.map_cons, List.map_nil]
    refine List.nodup_append.2 ⟨hk.sources, List.nodup_singleton _, ?_⟩
    rintro _ hx _ hy rfl
    obtain ⟨s, hs, hid⟩ := List.mem_map.1 hx
    exact of_decide_eq_false (hnewsrc s hs) (Or.inl (hid.trans (List.mem_singleton.1 hy)))
  · cases hs : db.core.source source_id with
    | some s =>
      refine .same ?_
      simp only [CoreTables.source] at hs
      simp only [CoreTables.slotAt, CoreTables.source, List.find?_append, hs, Option.some_or]
    | none =>
      simp only [CoreTables.source] at hs
      by_cases hid : opaqueId "mon-src" db.nextId = source_id
      · refine .created (by simp [CoreTables.slotAt, CoreTables.source, hs]) ?_
        cases kind <;> simp [CoreTables.slotAt, CoreTables.source, List.find?_append, hs, hid, slotOf]
      · refine .same ?_
        simp [CoreTables.slotAt, CoreTables.source, List.find?_append, hs, hid]

theorem advanceEpoch_moves (source_id : String) (kind : SlotKind) (epoch generation : ℕ) (c : CoreTables) :
    SlotsMove c (advanceEpoch source_id kind epoch generation c) := by
  have hid : ∀ s, (setSlot kind epoch generation s).monitoring_source_id = s.monitoring_source_id := fun s => by
    cases kind <;> rfl
  have hops : (advanceEpoch source_id kind epoch generation c).operations =
      updateWhere (fun _ => false) id c.operations ++ [] := by
    rw [List.append_nil, updateWhere_of_none fun _ _ => rfl]
    rfl
  refine ⟨.of_updates hops rfl (fun _ => ⟨rfl, rfl⟩) hid (Nat.zero_le 1) (by simp), fun kind' source_id' => ?_⟩
  have hslot := slotAt_updateWhere (c := c) (d := advanceEpoch source_id kind epoch generation c) rfl hid kind' source_id'
  cases hs : c.source source_id' with
  | none =>
    refine .same ?_
    rw [hslot, CoreTables.slotAt, hs]
    rfl
  | some s =>
    rw [hs, Option.map_some] at hslot
    have hbefore : c.slotAt kind' source_id' = some (slotOf s kind') := by rw [CoreTables.slotAt, hs, Option.map_some]
    by_cases hsel : s.monitoring_source_id = source_id ∧ (slotOf s kind).1 < epoch
    · rw [if_pos (by simpa using hsel)] at hslot
      by_cases hkind : kind' = kind
      · subst hkind
        have hafter : (advanceEpoch source_id kind' epoch generation c).slotAt kind' source_id' =
            some (epoch, generation) := hslot.trans (by cases kind' <;> rfl)
        exact .epoch hbefore hafter hsel.2
      · refine .same (hslot.trans (Eq.trans ?_ hbefore.symm))
        cases kind <;> cases kind' <;> first | rfl | exact absurd rfl hkind
    · rw [if_neg (by simpa using hsel)] at hslot
      exact .same (hslot.trans hbefore.symm)

namespace Sync

variable {domain : Domain}

variable {db db' : SyncDb}

/-- The actions that are one transaction on the schema. -/
theorem transact_moves {a : Action} (h : transact domain db a = .ok db') : SlotsMove db.core db'.core := by
  cases a with
  | createSource now ref url credential => exact insertZabbixSource_moves h
  | enqueue | enqueueDefinitions | enqueueCurrentState | enqueueHistory =>
    simp only [transact, enqueue_sync_operation, enqueue_metric_definition_poll, enqueue_current_state_poll,
      enqueue_history_sync] at h
    exact (enqueue_quiet h fun _ _ => rfl).moves
  | enqueueProblemState now source_id =>
    simp only [transact, enqueue_problem_state_sync] at h
    split at h
    · exact Except.ok.inj h ▸ (Quiet.refl _).moves
    · exact (insertOperation_quiet (fun _ => rfl) h).moves
  | projectHistory | projectHealth | reestablish | refreshBindings | claim | complete =>
    rw [transact_core h rfl]
    exact (Quiet.refl _).moves
  | requeue source_id op_id => exact Except.ok.inj h ▸ (requeue_quiet source_id op_id db.core).moves
  | recover cfg now slots => exact Except.ok.inj h ▸ (recoveryPass_quiet cfg slots db.core).moves
  | moveAuthority source_id a g => exact Except.ok.inj h ▸ (moveAuthority_quiet source_id a g db.core).moves
  | advanceEpoch source_id kind epoch generation =>
    exact Except.ok.inj h ▸ advanceEpoch_moves source_id kind epoch generation db.core

variable {op_id token : String}

theorem claim_quiet {now : Timestamp} {w : Worker} {c : Option Claim}
    (h : claim domain now w op_id token db = .ok (c, db')) : Quiet db.core db'.core := by
  rcases claim_cases h with ⟨_, rfl | rfl, rfl⟩ | ⟨c', -, -, h⟩
  · exact markRunning_quiet now op_id token db.core
  · exact (markRunning_quiet now op_id token db.core).trans (succeedEmpty_quiet op_id token _)
  · exact claim_problem_sync_quiet h

variable {c : CoreTables} {source_id : String}

variable {s : SourceRow}

theorem source_of_mem (hk : c.Keyed) (hs : s ∈ c.sources) (hid : s.monitoring_source_id = source_id) :
    c.source source_id = some s := by
  rw [CoreTables.source, find?_of_key hk.sources hs fun r hr => (of_decide_eq_true hr).trans hid.symm,
    if_pos (decide_eq_true hid)]

theorem slotAt_of_mem (hk : c.Keyed) (hs : s ∈ c.sources) (hid : s.monitoring_source_id = source_id) (kind : SlotKind) :
    c.slotAt kind source_id = some (slotOf s kind) := by
  rw [CoreTables.slotAt, source_of_mem hk hs hid, Option.map_some]

variable {p : SlotClaim}

/-- An operation that is claimable is held under its claim. -/
theorem held_of_claimable {now : Timestamp} {kind : ResponsibilityKind} {slot : OperationRow → SourceRow → Bool}
    {o : OperationRow} {g : SourceGeneration} (h : c.claimable kind slot op_id = some (o, s, g))
    (hp : p.toSyncClaim = syncClaim token op_id o s g) : (c.markRunning now op_id token).Held p := by
  obtain ⟨⟨ho, hid, hpending, hnone, -⟩, ⟨hs, hsource, hgen, hconf, hscope, -⟩, -⟩ := claimable_some h
  have hrow : { o with state := .running, claim_token := some token, started_at := some now } ∈
      (c.markRunning now op_id token).operations :=
    mem_updateWhere.2 ⟨o, ho, by simp [hid, hpending, hnone]⟩
  refine ⟨⟨_, hrow, ?_⟩, s, hs, ?_⟩
  · rw [hp]
    exact ⟨hid, rfl, rfl⟩
  · rw [hp]
    exact ⟨hsource, hgen, hconf, hscope⟩

/-- What a claim with a slot was made of: a source whose slot is before that of the claim, and an operation. -/
theorem claim_slot {now : Timestamp} {w : Worker} {c : Claim} (hk : db.core.Keyed)
    (h : claim domain now w op_id token db = .ok (some c, db')) (hp : slotClaim c = some p) :
    db'.core.Held p ∧
      (∃ g, p.generation = g + 1 ∧ db.core.slotAt p.kind p.monitoring_source_id = some (p.epoch, g)) ∧
      ∃ o ∈ db.core.operations, o.monitoring_sync_operation_id = p.monitoring_sync_operation_id ∧
        o.monitoring_source_id = p.monitoring_source_id := by
  cases w with
  | definitions =>
    obtain ⟨x, hx, h⟩ := map_ok_iff.1 h
    obtain ⟨hc, rfl⟩ := Prod.mk.inj h
    obtain rfl : Claim.definitions x.1 = c := Option.some.inj hc
    unfold claim_metric_definitions at hx
    split at hx
    · cases hx
    · rename_i o s g hclaimable
      obtain ⟨⟨ho, hid, -⟩, ⟨hs, hsource, -⟩, -⟩ := claimable_some hclaimable
      obtain rfl := Except.ok.inj hx
      obtain rfl := Option.some.inj hp
      exact ⟨held_of_claimable hclaimable rfl, ⟨_, rfl, slotAt_of_mem hk hs hsource _⟩, o, ho, hid, rfl⟩
  | currentState =>
    obtain ⟨x, hx, h⟩ := map_ok_iff.1 h
    obtain ⟨hc, rfl⟩ := Prod.mk.inj h
    obtain rfl : Claim.currentState x.1 = c := Option.some.inj hc
    unfold claim_metric_current_state at hx
    split at hx
    · cases hx
    · rename_i o s g hclaimable
      obtain ⟨⟨ho, hid, -⟩, ⟨hs, hsource, -⟩, -⟩ := claimable_some hclaimable
      obtain rfl := Except.ok.inj hx
      obtain rfl := Option.some.inj hp
      exact ⟨held_of_claimable hclaimable rfl, ⟨_, rfl, slotAt_of_mem hk hs hsource _⟩, o, ho, hid, rfl⟩
  | history =>
    obtain ⟨x, -, h⟩ := map_ok_iff.1 h
    obtain ⟨hc, -⟩ := Prod.mk.inj h
    obtain ⟨c', -, rfl⟩ := Option.map_eq_some_iff.1 hc
    cases hp
  | validation =>
    obtain ⟨x, -, h⟩ := map_ok_iff.1 h
    obtain rfl : Claim.validation x.1 = c := Option.some.inj (Prod.mk.inj h).1
    cases hp
  | inventory =>
    obtain ⟨x, -, h⟩ := map_ok_iff.1 h
    obtain rfl : Claim.inventory x.1 = c := Option.some.inj (Prod.mk.inj h).1
    cases hp
  | problemState =>
    obtain ⟨x, -, h⟩ := map_ok_iff.1 h
    obtain rfl : Claim.problemState x.1 = c := Option.some.inj (Prod.mk.inj h).1
    cases hp

variable {report : Report}

/-- A completion without a slot moves none. -/
theorem complete_quiet {now : Timestamp} {c : Claim} (hp : slotClaim c = none)
    (h : complete domain now c report db = .ok db') : Quiet db.core db'.core := by
  rcases complete_cases h with ⟨c', result, id, rfl, rfl, h⟩ | ⟨c', result, id, rfl, rfl, h⟩ |
    ⟨c', result, id, rfl, rfl, h⟩ | ⟨c', result, rfl, rfl, h⟩ | ⟨c', result, raw_rows, rfl, rfl, h⟩ |
    ⟨c', result, raw_rows, recoveries, rfl, rfl, h⟩
  · obtain ⟨-, -, e, -, -, rfl⟩ := complete_initial_validation_ok h
    refine Quiet.trans (d := { db.core with validations := db.core.validations ++ [e] }) (.of_eq rfl rfl) ?_
    dsimp only
    exact finish_quiet _ _ _ _ _ fun _ => ⟨rfl, rfl⟩
  · obtain ⟨-, -, -, s, -, rfl⟩ := complete_host_inventory_ok h
    dsimp only
    exact finish_quiet _ _ _ _ _ fun _ => ⟨rfl, rfl⟩
  · cases hp
  · cases hp
  · obtain ⟨-, x, -, hchain⟩ := complete_metric_history_ok h
    have hfinish : Quiet db.core (db.core.finish now c'.toSyncClaim result.toSyncResult
        (result.failure_class.map MetricHistoryFailureClass.value) "metric_history" (fun s => s) (fun o => o)) :=
      finish_quiet _ _ _ _ _ fun _ => ⟨rfl, rfl⟩
    unfold chainHistory at hchain
    split_ifs at hchain
    · exact hfinish.trans (insertOperation_quiet (fun _ => rfl) hchain)
    · exact Except.ok.inj hchain ▸ hfinish
  · exact complete_problem_sync_quiet h

/-- A completion keeps operations and keys. -/
theorem complete_kept {now : Timestamp} {c : Claim} (h : complete domain now c report db = .ok db') :
    Kept db.core db'.core := by
  cases hp : slotClaim c with
  | none => exact (complete_quiet hp h).toKept
  | some p =>
    rcases complete_cases h with ⟨c', result, id, rfl, rfl, h⟩ | ⟨c', result, id, rfl, rfl, h⟩ |
      ⟨c', result, id, rfl, rfl, h⟩ | ⟨c', result, rfl, rfl, h⟩ | ⟨c', result, raw_rows, rfl, rfl, h⟩ |
      ⟨c', result, raw_rows, recoveries, rfl, rfl, h⟩
    · cases hp
    · cases hp
    · obtain ⟨-, -, -, x, -, rfl⟩ := complete_metric_definitions_ok h
      dsimp only
      exact finish_kept _ _ _ _ _ (fun _ => ⟨rfl, rfl⟩) fun _ => rfl
    · obtain ⟨-, x, -, rfl⟩ := complete_metric_current_state_ok h
      dsimp only
      exact finish_kept _ _ _ _ _ (fun _ => ⟨rfl, rfl⟩) fun _ => rfl
    · cases hp
    · cases hp

/-- The fence of a slot holds the claim. -/
theorem held_of_fence {claim : SyncClaim} {slot : SourceRow → Bool} (hk : c.Keyed)
    (howner : ∃ o ∈ c.operations,
      o.monitoring_sync_operation_id = p.monitoring_sync_operation_id ∧ o.monitoring_source_id = p.monitoring_source_id)
    (hclaim : p.toSyncClaim = claim) (hfence : c.fence claim slot = true) :
    c.Held p ∧ ∃ s, c.source p.monitoring_source_id = some s ∧ slot s = true := by
  subst hclaim
  obtain ⟨o, ho, ⟨hid, hrunning, htoken⟩, s, hs, hsource, hgen, hconf, hscope, hslot⟩ := fence_iff.1 hfence
  obtain ⟨o', ho', hid', hsource'⟩ := howner
  obtain rfl : o = o' := eq_of_key hk.operations ho ho' (hid.trans hid'.symm)
  have hs' : s.monitoring_source_id = p.monitoring_source_id := hsource.trans hsource'
  exact ⟨⟨⟨o, ho, hid, hrunning, htoken⟩, s, hs, hs', hgen, hconf, hscope⟩, s, source_of_mem hk hs hs', hslot⟩

/-- The slot after that of the source is the claim's, and it alone is consumed. -/
def Consumes (c c' : CoreTables) (p : SlotClaim) : Prop :=
  ∃ g, p.generation = g + 1 ∧ c.slotAt p.kind p.monitoring_source_id = some (p.epoch, g) ∧
    ∀ kind source_id, c'.slotAt kind source_id =
      if kind = p.kind ∧ source_id = p.monitoring_source_id then some (p.epoch, g + 1) else c.slotAt kind source_id

/-- A completion with a slot holds its claim, and consumes the slot. -/
theorem complete_slot {now : Timestamp} {c : Claim} (hp : slotClaim c = some p) (hk : db.core.Keyed)
    (howner : ∃ o ∈ db.core.operations,
      o.monitoring_sync_operation_id = p.monitoring_sync_operation_id ∧ o.monitoring_source_id = p.monitoring_source_id)
    (h : complete domain now c report db = .ok db') : db.core.Held p ∧ Consumes db.core db'.core p := by
  rcases complete_cases h with ⟨c', result, id, rfl, rfl, h⟩ | ⟨c', result, id, rfl, rfl, h⟩ |
    ⟨c', result, id, rfl, rfl, h⟩ | ⟨c', result, rfl, rfl, h⟩ | ⟨c', result, raw_rows, rfl, rfl, h⟩ |
    ⟨c', result, raw_rows, recoveries, rfl, rfl, h⟩
  · cases hp
  · cases hp
  · obtain ⟨hfence, -, -, x, -, rfl⟩ := complete_metric_definitions_ok h
    obtain rfl := Option.some.inj hp
    obtain ⟨hheld, s, hs, hslot⟩ := held_of_fence hk howner rfl hfence
    simp only [MetricDefinitionClaim.slot, decide_eq_true_eq] at hslot
    obtain ⟨-, hepoch, hgen⟩ := hslot
    have hat : db.core.slotAt .item_definition c'.monitoring_source_id =
        some (c'.item_definition_poll_epoch, s.item_definition_poll_generation) := by
      rw [CoreTables.slotAt, hs, ← hepoch]
      rfl
    refine ⟨hheld, _, hgen.symm, hat, fun kind source_id => ?_⟩
    refine (finish_slotAt _ _ _ _ _ .item_definition c'.item_definition_poll_generation (by exact fun _ => rfl)
      (fun s kind' => ?_) kind source_id).trans ?_
    · cases kind' <;> rfl
    · split_ifs with hsel
      · rw [hsel.2, hat, hgen]
        rfl
      · rfl
  · obtain ⟨hfence, x, -, rfl⟩ := complete_metric_current_state_ok h
    obtain rfl := Option.some.inj hp
    obtain ⟨hheld, s, hs, hslot⟩ := held_of_fence hk howner rfl hfence
    simp only [MetricCurrentStateClaim.slot, decide_eq_true_eq] at hslot
    obtain ⟨hepoch, hgen⟩ := hslot
    have hat : db.core.slotAt .current_state c'.monitoring_source_id =
        some (c'.current_state_poll_epoch, s.current_state_poll_generation) := by
      rw [CoreTables.slotAt, hs, ← hepoch]
      rfl
    refine ⟨hheld, _, hgen.symm, hat, fun kind source_id => ?_⟩
    refine (finish_slotAt _ _ _ _ _ .current_state c'.current_state_poll_generation (by exact fun _ => rfl)
      (fun s kind' => ?_) kind source_id).trans ?_
    · cases kind' <;> rfl
    · split_ifs with hsel
      · rw [hsel.2, hat, hgen]
        rfl
      · rfl
  · cases hp
  · cases hp

/-! ### The generations that an epoch consumes -/

/-- The generation that a completion consumed, where it is one of the epoch. -/
def consumedBy (kind : SlotKind) (source_id : String) (epoch : ℕ) (x : Claim × Report) : Option ℕ :=
  (slotClaim x.1).bind fun p =>
    if p.kind = kind ∧ p.monitoring_source_id = source_id ∧ p.epoch = epoch then some p.generation else none

/-- The generations that the committed completions of an epoch consumed. -/
def System.consumed (s : System) (kind : SlotKind) (source_id : String) (epoch : ℕ) : List ℕ :=
  s.committed.filterMap (consumedBy kind source_id epoch)

/-- The generations consumed in an epoch, against the slot of the source. -/
structure InOrder (slot : Option (ℕ × ℕ)) (epoch : ℕ) (consumed : List ℕ) : Prop where
  /-- They are consecutive, up to the generation of the source in its epoch. -/
  consecutive : ∃ start, consumed = List.range' (start + 1) consumed.length ∧
    ∀ g, slot = some (epoch, g) → g = start + consumed.length
  /-- There is none in an epoch that has not begun. -/
  later : (∀ e g, slot = some (e, g) → e < epoch) → consumed = []

/-- What a step does to the slots. -/
structure SlotsFenced (domain : Domain) (s : System) (a : Action) : Prop where
  /-- A claim that is issued is held, and is for the next slot of its source. -/
  claimed : ∀ c p, (s.step domain a).issued = s.issued ++ [c] → slotClaim c = some p →
    (s.step domain a).db.core.Held p ∧
      ∃ g, p.generation = g + 1 ∧ s.db.core.slotAt p.kind p.monitoring_source_id = some (p.epoch, g)
  /-- A completion of a claim that is not held changes nothing. -/
  fenced : ∀ now n report c p, a = .complete now n report → s.issued[n]? = some c → slotClaim c = some p →
    s.step domain a = s ∨ s.db.core.Held p ∧ s.Commits domain a c report
  /-- One that is committed consumes the next slot of its source. -/
  advances : ∀ c report p, s.Commits domain a c report → slotClaim c = some p →
    Consumes s.db.core (s.step domain a).db.core p
  /-- No other step does. -/
  others : (∀ c report, s.Commits domain a c report → slotClaim c = none) →
    ∀ kind source_id, SlotMove s.db.core (s.step domain a).db.core kind source_id

/-- The invariant of a run. -/
structure InStep (s : System) : Prop where
  keyed : s.db.core.Keyed
  /-- The operation of a claim is there. -/
  owned : ∀ c ∈ s.issued, ∀ p, slotClaim c = some p → ∃ o ∈ s.db.core.operations,
    o.monitoring_sync_operation_id = p.monitoring_sync_operation_id ∧ o.monitoring_source_id = p.monitoring_source_id
  ordered : ∀ kind source_id epoch,
    InOrder (s.db.core.slotAt kind source_id) epoch (s.consumed kind source_id epoch)

theorem step_kept (domain : Domain) (s : System) (a : Action) : Kept s.db.core (s.step domain a).db.core := by
  rcases step_cases domain s a with h | ⟨db, ht, h⟩ | ⟨now, w, op_id, token, c, db, -, hc, h⟩ |
    ⟨now, n, report, c, db, rfl, hn, hc, h⟩ <;> rw [h]
  · exact (Quiet.refl _).toKept
  · exact (transact_moves ht).toKept
  · exact (claim_quiet hc).toKept
  · exact complete_kept hc

/-- A step under the invariant consumes a slot, or moves none. -/
theorem step_slots (domain : Domain) {s : System} (hs : InStep s) (a : Action) :
    (∃ c report p, s.Commits domain a c report ∧ slotClaim c = some p ∧ s.db.core.Held p ∧
        Consumes s.db.core (s.step domain a).db.core p) ∨
      (∀ c report, s.Commits domain a c report → slotClaim c = none) ∧
        ∀ kind source_id, SlotMove s.db.core (s.step domain a).db.core kind source_id := by
  have idle : (s.step domain a).committed = s.committed → ∀ c report, s.Commits domain a c report → slotClaim c = none :=
    fun hsame c report hc => by simp [System.Commits, hsame] at hc
  rcases step_cases domain s a with h | ⟨db, ht, h⟩ | ⟨now, w, op_id, token, c, db, -, hc, h⟩ |
    ⟨now, n, report, c, db, rfl, hn, hc, h⟩
  · have hmoves : SlotsMove s.db.core (s.step domain a).db.core := by rw [h]; exact (Quiet.refl _).moves
    exact Or.inr ⟨idle (by rw [h]), hmoves.slots⟩
  · have hmoves : SlotsMove s.db.core (s.step domain a).db.core := by rw [h]; exact transact_moves ht
    exact Or.inr ⟨idle (by rw [h]), hmoves.slots⟩
  · have hmoves : SlotsMove s.db.core (s.step domain a).db.core := by rw [h]; exact (claim_quiet hc).moves
    exact Or.inr ⟨idle (by rw [h]), hmoves.slots⟩
  · have hcommit : s.Commits domain (.complete now n report) c report := by rw [System.Commits, h]
    have hdb : (s.step domain (.complete now n report)).db = db := by rw [h]
    rw [hdb]
    cases hp : slotClaim c with
    | none =>
      refine Or.inr ⟨fun c' report' hc' => ?_, (complete_quiet hp hc).moves.slots⟩
      obtain ⟨rfl, -⟩ : c = c' ∧ report = report' := by simpa [System.Commits, h] using hc'
      exact hp
    | some p =>
      obtain ⟨hheld, hslot⟩ := complete_slot hp hs.keyed (hs.owned c (List.mem_of_getElem? hn) p hp) hc
      exact Or.inl ⟨c, report, p, hcommit, hp, hheld, hslot⟩

/-- The generations consumed, where no slot moves by a completion. -/
theorem InOrder.move {kind : SlotKind} {epoch : ℕ} {consumed : List ℕ}
    (h : InOrder (c.slotAt kind source_id) epoch consumed) (hmove : SlotMove c c' kind source_id) :
    InOrder (c'.slotAt kind source_id) epoch consumed := by
  cases hmove with
  | same heq => rwa [heq]
  | created hbefore hafter =>
    rw [hbefore] at h
    have hnone : consumed = [] := h.later (by simp)
    subst hnone
    refine ⟨⟨0, rfl, fun g hg => ?_⟩, fun _ => rfl⟩
    simp only [hafter, Option.some.injEq, Prod.mk.injEq] at hg
    simp [← hg.2]
  | @epoch e g e' g' hbefore hafter hlt =>
    rw [hbefore] at h
    have hlater : e < epoch → consumed = [] := fun he => h.later (by simpa using he)
    refine ⟨?_, fun hepoch => hlater (hlt.trans (hepoch e' g' hafter))⟩
    by_cases he : e' = epoch
    · -- The epoch that starts has consumed nothing.
      have hnone := hlater (he ▸ hlt)
      subst hnone
      refine ⟨g', rfl, fun g hg => ?_⟩
      simp only [hafter, Option.some.injEq, Prod.mk.injEq] at hg
      simp [← hg.2]
    · obtain ⟨start, hrange, -⟩ := h.consecutive
      refine ⟨start, hrange, fun g hg => absurd ?_ he⟩
      simp only [hafter, Option.some.injEq, Prod.mk.injEq] at hg
      exact hg.1

/-- The epoch of a slot consumes it. -/
theorem InOrder.consume {e g epoch : ℕ} {consumed : List ℕ} (h : InOrder (some (e, g)) epoch consumed) :
    InOrder (some (e, g + 1)) epoch (consumed ++ if e = epoch then [g + 1] else []) := by
  obtain ⟨start, hrange, hgen⟩ := h.consecutive
  split_ifs with he
  · subst he
    have hg := hgen g rfl
    refine ⟨⟨start, ?_, fun g' hg' => ?_⟩, fun hlater => absurd (hlater e (g + 1) rfl) (lt_irrefl e)⟩
    · rw [List.length_append, List.length_singleton, List.range'_concat, ← hrange, Nat.one_mul]
      congr 2
      omega
    · simp only [Option.some.injEq, Prod.mk.injEq, true_and] at hg'
      simp only [List.length_append, List.length_singleton]
      omega
  · rw [List.append_nil]
    refine ⟨⟨start, hrange, fun g' hg' => absurd ?_ he⟩, fun hlater => h.later fun e' g' hg' => ?_⟩
    · simp only [Option.some.injEq, Prod.mk.injEq] at hg'
      exact hg'.1
    · simp only [Option.some.injEq, Prod.mk.injEq] at hg'
      exact hg'.1 ▸ hlater e (g + 1) rfl

theorem consumed_commits {s : System} {a : Action} {c : Claim} (hc : s.Commits domain a c report) (kind : SlotKind)
    (source_id : String) (epoch : ℕ) :
    (s.step domain a).consumed kind source_id epoch =
      s.consumed kind source_id epoch ++ (consumedBy kind source_id epoch (c, report)).toList := by
  rw [System.consumed, show (s.step domain a).committed = _ from hc, List.filterMap_append]
  cases h : consumedBy kind source_id epoch (c, report) <;> simp [h, System.consumed]

/-- A step keeps the invariant. -/
theorem InStep.step {s : System} (hs : InStep s) (a : Action) : InStep (s.step domain a) := by
  have hkept := step_kept domain s a
  have hslots := step_slots domain hs a
  have howned : ∀ c ∈ s.issued, ∀ p, slotClaim c = some p → ∃ o ∈ (s.step domain a).db.core.operations,
      o.monitoring_sync_operation_id = p.monitoring_sync_operation_id ∧
        o.monitoring_source_id = p.monitoring_source_id := by
    intro c hc p hp
    obtain ⟨o, ho, hid, hsource⟩ := hs.owned c hc p hp
    obtain ⟨o', ho', hid', hsource'⟩ := hkept.owner o ho
    exact ⟨o', ho', hid'.trans hid, hsource'.trans hsource⟩
  refine ⟨hkept.keyed hs.keyed, ?_, fun kind source_id epoch => ?_⟩
  · intro c hc p hp
    rcases step_cases domain s a with h | ⟨db, -, h⟩ | ⟨now, w, op_id, token, c', db, -, hclaim, h⟩ |
      ⟨now, n, report, c', db, rfl, -, -, h⟩
    · exact howned c (by rwa [h] at hc) p hp
    · exact howned c (by rwa [h] at hc) p hp
    · rw [h] at hc
      rcases List.mem_append.1 hc with hc | hc
      · exact howned c hc p hp
      · obtain rfl : c' = some c := Option.mem_toList.1 hc
        obtain ⟨-, -, o, ho, hid, hsource⟩ := claim_slot hs.keyed hclaim hp
        obtain ⟨o', ho', hid', hsource'⟩ := hkept.owner o ho
        exact ⟨o', ho', hid'.trans hid, hsource'.trans hsource⟩
    · exact howned c (by rwa [h] at hc) p hp
  · have hbefore := hs.ordered kind source_id epoch
    rcases hslots with ⟨c, report, p, hcommit, hp, -, g, hgen, hat, hafter⟩ | ⟨hno, hmoves⟩
    · rw [consumed_commits hcommit, hafter]
      by_cases hsel : kind = p.kind ∧ source_id = p.monitoring_source_id
      · obtain ⟨rfl, rfl⟩ := hsel
        rw [hat] at hbefore
        rw [if_pos ⟨rfl, rfl⟩]
        convert hbefore.consume using 2
        simp only [consumedBy, hp, Option.bind_some, true_and, hgen]
        split_ifs <;> rfl
      · rw [if_neg hsel]
        have hother : consumedBy kind source_id epoch (c, report) = none := by
          simp only [consumedBy, hp, Option.bind_some, ite_eq_right_iff, reduceCtorEq, imp_false]
          exact fun h => hsel ⟨h.1.symm, h.2.1.symm⟩
        rwa [hother, Option.toList_none, List.append_nil]
    · have hconsumed : (s.step domain a).consumed kind source_id epoch = s.consumed kind source_id epoch := by
        rcases step_committed domain s a with heq | ⟨c, report, hcommit⟩
        · rw [System.consumed, heq]
          rfl
        · rw [consumed_commits hcommit, consumedBy, hno c report hcommit, Option.bind_none, Option.toList_none,
            List.append_nil]
      rw [hconsumed]
      exact hbefore.move (hmoves kind source_id)

/-- A step under the invariant is fenced. -/
theorem InStep.fenced {s : System} (hs : InStep s) (a : Action) : SlotsFenced domain s a := by
  have hslots := step_slots domain hs a
  have held : ∀ c report p, s.Commits domain a c report → slotClaim c = some p → s.db.core.Held p ∧
      Consumes s.db.core (s.step domain a).db.core p := by
    intro c report p hcommit hp
    rcases hslots with ⟨c', report', p', hcommit', hp', h⟩ | ⟨hno, -⟩
    · obtain ⟨rfl, -⟩ : c' = c ∧ report' = report := by
        have heq := hcommit'.symm.trans hcommit
        simpa using heq
      obtain rfl := Option.some.inj (hp'.symm.trans hp)
      exact h
    · rw [hno c report hcommit] at hp
      cases hp
  refine ⟨fun c p hissued hp => ?_, ?_, fun c report p hcommit hp => (held c report p hcommit hp).2, fun hno => ?_⟩
  · rcases step_cases domain s a with h | ⟨db, -, h⟩ | ⟨now, w, op_id, token, c', db, rfl, hclaim, h⟩ |
      ⟨now, n, report, c', db, rfl, -, -, h⟩ <;> rw [h] at hissued ⊢
    · simp at hissued
    · simp at hissued
    · obtain rfl : c' = some c := Option.toList_eq_singleton_iff.1 (List.append_cancel_left hissued)
      obtain ⟨hheld, hslot, -⟩ := claim_slot hs.keyed hclaim hp
      exact ⟨hheld, hslot⟩
    · simp at hissued
  · rintro now n report c p rfl hn hp
    by_cases hcommit : s.Commits domain (.complete now n report) c report
    · exact Or.inr ⟨(held c report p hcommit hp).1, hcommit⟩
    · refine Or.inl ?_
      cases hc : complete domain now c report s.db with
      | error e => simp only [System.step, hn, hc]
      | ok db =>
        refine absurd ?_ hcommit
        simp only [System.Commits, System.step, hn, hc]
  · rcases hslots with ⟨c, report, p, hcommit, hp, -⟩ | ⟨-, hmoves⟩
    · rw [hno c report hcommit] at hp
      cases hp
    · exact hmoves

theorem inStep_exec (bridge : BridgeVersion) (run : List Action) : InStep (System.exec domain bridge run) := by
  induction run using List.reverseRecOn with
  | nil =>
    refine ⟨⟨List.nodup_nil, List.nodup_nil⟩, by simp [System.exec, System.empty], fun kind source_id epoch => ?_⟩
    exact ⟨⟨0, rfl, fun g hg => by cases hg⟩, fun _ => rfl⟩
  | append_singleton run a ih =>
    rw [System.exec, List.foldl_append]
    exact ih.step a

/-- **Key result**: in every run, a completion that does not hold its claim changes nothing, one that does consumes
the next slot of its source, and the generations consumed in an epoch are consecutive, up to that of the source. -/
theorem strict_poll_order (domain : Domain) (bridge : BridgeVersion) (run : List Action) :
    (∀ kind source_id epoch, InOrder ((System.exec domain bridge run).db.core.slotAt kind source_id) epoch
      ((System.exec domain bridge run).consumed kind source_id epoch)) ∧
    ∀ a, SlotsFenced domain (System.exec domain bridge run) a :=
  have hrun : InStep (System.exec domain bridge run) := inStep_exec bridge run
  ⟨hrun.ordered, hrun.fenced⟩

end Sync

end JLMirror.Monitoring
