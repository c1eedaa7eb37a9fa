import JLMirror.Monitoring.AuthorityOrder
import JLMirror.Monitoring.UsageBilling

/-!
# The sweep of zombies is exact

`_sweep_zombie_pending` of `workers/reconciliation.py` ends the pending operations "whose authority snapshot no longer
matches the source", because they "can never be claimed". It restates in one predicate what the claims of six workers
ask for each on its own.

## The model

* `Worker.slot` is what a claim asks of the slots of its source beside the authority. The gates of the problem worker,
  the evidence of the source and its admission, are no part of it.
* `RejectedForGood` says that the fence of a worker rejects an operation in every continuation of the run.
* The sweep comes after the statements that reap the operations of dead workers, in their transaction.

## What is proved

* `superseded_iff`: the predicate of the sweep is the negation of the fences.
* **Key result** (`sweep_exact`): in every reachable state the sweep ends exactly the pending operations that are
  rejected for good, every one that it leaves can be claimed at once, none that it ends can be claimed later, and it
  leaves alone what is not pending.

## Honest scope

The sweep is one step here. In the code it reads the sources once, and what is rejected by then stays rejected, so a
source that moves on beside it makes it miss an operation, which the next pass ends, and never end one too many.
-/

namespace JLMirror.Monitoring

open JLMirror.Foundations

namespace Sync

/-- What the claim of a worker asks of the slots of the source. -/
def Worker.slot : Worker → OperationRow → SourceRow → Bool
  | .definitions => definitionSlot
  | .currentState => currentStateSlot
  | .validation | .inventory | .history | .problemState => fun _ _ => true

end Sync

open Sync

/-- The fence of a worker: the operation is of its kind, and has the authority, the generation and the slot. -/
def CoreTables.admits (c : CoreTables) (w : Worker) (op_id : String) : Bool :=
  c.operations.any fun o =>
    o.monitoring_sync_operation_id = op_id ∧ o.responsibility_kind = w.responsibility ∧
      (c.sources.any fun s =>
        s.monitoring_source_id = o.monitoring_source_id ∧
          s.active_source_instance_generation = o.source_instance_generation ∧
          s.configuration_revision = o.configuration_revision ∧ s.scope_revision = o.scope_revision ∧ w.slot o s) ∧
      c.generations.any fun g =>
        g.monitoring_source_id = o.monitoring_source_id ∧ g.source_instance_generation = o.source_instance_generation

/-! ### The fences and the predicate of the sweep -/

section Fences

variable {c : CoreTables} {w : Worker} {o : OperationRow} {s : SourceRow}

theorem position_eq_iff : s.position = o.position ↔
    s.active_source_instance_generation = o.source_instance_generation ∧
      s.configuration_revision = o.configuration_revision ∧ s.scope_revision = o.scope_revision := by
  simp [SourceRow.position, OperationRow.position]

/-- The slot that a worker asks for is that of the kind. -/
theorem slot_iff (hkind : o.responsibility_kind = w.responsibility) :
    w.slot o s = true ↔ ∀ kind, o.responsibility_kind.slotKind = some kind →
      ∃ e g, slotOf s kind = (e, g) ∧ o.slot kind = (some e, some (g + 1)) := by
  rw [hkind]
  cases w with
  | definitions =>
    constructor
    · intro h kind hkind
      obtain rfl := Option.some.inj hkind
      obtain ⟨he, hg⟩ := of_decide_eq_true h
      exact ⟨_, _, rfl, Prod.ext he hg⟩
    · intro h
      obtain ⟨e, g, hat, hwants⟩ := h _ rfl
      obtain ⟨rfl, rfl⟩ := Prod.mk.inj hat
      exact decide_eq_true (Prod.mk.inj hwants)
  | currentState =>
    constructor
    · intro h kind hkind
      obtain rfl := Option.some.inj hkind
      obtain ⟨he, hg⟩ := of_decide_eq_true h
      exact ⟨_, _, rfl, Prod.ext he hg⟩
    · intro h
      obtain ⟨e, g, hat, hwants⟩ := h _ rfl
      obtain ⟨rfl, rfl⟩ := Prod.mk.inj hat
      exact decide_eq_true (Prod.mk.inj hwants)
  | validation | inventory | history | problemState =>
    exact iff_of_true rfl fun kind hnone => nomatch hnone

/-- The fence, on the source of the operation. -/
theorem admitted_iff (hs : c.source o.monitoring_source_id = some s)
    (hkind : o.responsibility_kind = w.responsibility) :
    c.Admitted o.snapshot ↔ s.position = o.position ∧ w.slot o s = true := by
  have hposition : c.positionAt o.monitoring_source_id = some s.position := by
    rw [CoreTables.positionAt, hs, Option.map_some]
  have hslot : ∀ kind, c.slotAt kind o.monitoring_source_id = some (slotOf s kind) := fun kind => by
    rw [CoreTables.slotAt, hs, Option.map_some]
  rw [slot_iff hkind]
  constructor
  · rintro ⟨hpos, hslots⟩
    refine ⟨Option.some.inj (hposition.symm.trans hpos), fun kind hk => ?_⟩
    obtain ⟨e, g, hat, hwants⟩ := hslots kind hk
    exact ⟨e, g, Option.some.inj ((hslot kind).symm.trans hat), hwants⟩
  · rintro ⟨hpos, hslots⟩
    refine ⟨hposition.trans (congrArg some hpos), fun kind hk => ?_⟩
    obtain ⟨e, g, hat, hwants⟩ := hslots kind hk
    exact ⟨e, g, (hslot kind).trans (congrArg some hat), hwants⟩

theorem superseded_iff (hkind : o.responsibility_kind = w.responsibility) :
    o.superseded s = true ↔ ¬(s.position = o.position ∧ w.slot o s = true) := by
  rw [position_eq_iff]
  cases w <;>
    simp [OperationRow.superseded, hkind, Worker.responsibility, Worker.slot, definitionSlot, currentStateSlot] <;> tauto

theorem operation_of_mem (hk : c.Keyed) (ho : o ∈ c.operations) :
    (c.operations.find? fun r => r.monitoring_sync_operation_id = o.monitoring_sync_operation_id) = some o := by
  rw [find?_of_key hk.operations ho fun r hr => of_decide_eq_true hr, if_pos (decide_eq_true rfl)]

/-- The fence of a worker on an operation of its kind. -/
theorem admits_iff (hk : c.Keyed) (ho : o ∈ c.operations) (hkind : o.responsibility_kind = w.responsibility)
    (hs : c.source o.monitoring_source_id = some s)
    (hname : c.Names o.monitoring_source_id o.source_instance_generation) :
    c.admits w o.monitoring_sync_operation_id = true ↔ c.Admitted o.snapshot := by
  have hsource : s.monitoring_source_id = o.monitoring_source_id := by simpa using List.find?_some hs
  rw [admitted_iff hs hkind, position_eq_iff]
  constructor
  · intro h
    obtain ⟨o', ho', h⟩ := List.any_eq_true.1 h
    obtain ⟨hid, -, hsources, -⟩ := of_decide_eq_true h
    obtain rfl : o' = o := eq_of_key hk.operations ho' ho hid
    obtain ⟨s', hs', h⟩ := List.any_eq_true.1 hsources
    obtain ⟨hid', hgen, hconf, hscope, hslot⟩ := of_decide_eq_true h
    obtain rfl : s' = s := eq_of_key hk.sources hs' (List.mem_of_find?_eq_some hs) (hid'.trans hsource.symm)
    exact ⟨⟨hgen, hconf, hscope⟩, hslot⟩
  · rintro ⟨⟨hgen, hconf, hscope⟩, hslot⟩
    obtain ⟨g, hg, hnamed⟩ := hname
    refine List.any_eq_true.2 ⟨o, ho, decide_eq_true ⟨rfl, hkind, ?_, ?_⟩⟩
    · exact List.any_eq_true.2 ⟨s, List.mem_of_find?_eq_some hs, decide_eq_true ⟨hsource, hgen, hconf, hscope, hslot⟩⟩
    · exact List.any_eq_true.2 ⟨g, hg, decide_eq_true hnamed⟩

/-- What a claim finds: a pending operation without a token that its fence admits. -/
theorem claimable_isSome_iff (hk : c.Keyed) (ho : o ∈ c.operations) (hkind : o.responsibility_kind = w.responsibility)
    (hs : c.source o.monitoring_source_id = some s)
    (hname : c.Names o.monitoring_source_id o.source_instance_generation) :
    (c.claimable w.responsibility w.slot o.monitoring_sync_operation_id).isSome = true ↔
      o.state = .pending ∧ o.claim_token = none ∧ c.Admitted o.snapshot := by
  have hsource : s.monitoring_source_id = o.monitoring_source_id := by simpa using List.find?_some hs
  rw [admitted_iff hs hkind, position_eq_iff]
  constructor
  · intro h
    obtain ⟨⟨o', s', g⟩, hclaimable⟩ := Option.isSome_iff_exists.1 h
    obtain ⟨⟨ho', hid, hpending, htoken, -⟩, ⟨hs', hid', hgen, hconf, hscope, hslot⟩, -⟩ := claimable_some hclaimable
    obtain rfl : o' = o := eq_of_key hk.operations ho' ho hid
    obtain rfl : s' = s := eq_of_key hk.sources hs' (List.mem_of_find?_eq_some hs) (hid'.trans hsource.symm)
    exact ⟨hpending, htoken, ⟨hgen, hconf, hscope⟩, hslot⟩
  · rintro ⟨hpending, htoken, ⟨hgen, hconf, hscope⟩, hslot⟩
    obtain ⟨g, hg, hnamed⟩ := hname
    have hop : c.operations.find? (fun r => r.monitoring_sync_operation_id = o.monitoring_sync_operation_id ∧
        r.state = .pending ∧ r.claim_token = none ∧ r.responsibility_kind = w.responsibility) = some o := by
      rw [find?_of_key hk.operations ho fun r hr => (of_decide_eq_true hr).1, if_pos]
      exact decide_eq_true ⟨rfl, hpending, htoken, hkind⟩
    have hsrc : (c.sources.find? fun r => r.monitoring_source_id = o.monitoring_source_id ∧
        r.active_source_instance_generation = o.source_instance_generation ∧
        r.configuration_revision = o.configuration_revision ∧ r.scope_revision = o.scope_revision ∧ w.slot o r) =
          some s := by
      rw [find?_of_key hk.sources (List.mem_of_find?_eq_some hs) fun r hr =>
        (of_decide_eq_true hr).1.trans hsource.symm, if_pos]
      exact decide_eq_true ⟨hsource, hgen, hconf, hscope, hslot⟩
    obtain ⟨g', hg'⟩ : ∃ g', c.generations.find? (fun g => g.monitoring_source_id = o.monitoring_source_id ∧
        g.source_instance_generation = o.source_instance_generation) = some g' :=
      Option.isSome_iff_exists.1 (List.find?_isSome.2 ⟨g, hg, decide_eq_true hnamed⟩)
    unfold CoreTables.claimable
    rw [hop]
    simp only [Option.bind_eq_bind, Option.bind_some, hsrc, hg']
    rfl

end Fences

/-! ### Claims -/

namespace Sync

section Claims

variable {domain : Domain} {now : Timestamp} {w : Worker} {op_id token : String} {db : SyncDb}

theorem admits_of_claimable {c : CoreTables} {slot : OperationRow → SourceRow → Bool} {o : OperationRow} {s : SourceRow}
    {g : SourceGeneration} (hslot : slot o s = true → w.slot o s = true)
    (h : c.claimable w.responsibility slot op_id = some (o, s, g)) : c.admits w op_id = true := by
  obtain ⟨⟨ho, hid, -, -, hkind⟩, ⟨hs, hsource, hgen, hconf, hscope, hs'⟩, hg, hnamed⟩ := claimable_some h
  refine List.any_eq_true.2 ⟨o, ho, decide_eq_true ⟨hid, hkind, ?_, ?_⟩⟩
  · exact List.any_eq_true.2 ⟨s, hs, decide_eq_true ⟨hsource, hgen, hconf, hscope, hslot hs'⟩⟩
  · exact List.any_eq_true.2 ⟨g, hg, decide_eq_true hnamed⟩

/-- A claim that goes through passes its fence. -/
theorem admits_of_claim {r : Option Claim × SyncDb} (h : claim domain now w op_id token db = .ok r) :
    db.core.admits w op_id = true := by
  cases w with
  | validation =>
    obtain ⟨x, hx, -⟩ := map_ok_iff.1 h
    unfold claim_initial_validation at hx
    split at hx
    · cases hx
    · rename_i hclaimable
      exact admits_of_claimable id hclaimable
  | inventory =>
    obtain ⟨x, hx, -⟩ := map_ok_iff.1 h
    unfold claim_host_inventory at hx
    split at hx
    · cases hx
    · rename_i hclaimable
      exact admits_of_claimable id hclaimable
  | definitions =>
    obtain ⟨x, hx, -⟩ := map_ok_iff.1 h
    unfold claim_metric_definitions at hx
    split at hx
    · cases hx
    · rename_i hclaimable
      exact admits_of_claimable id hclaimable
  | currentState =>
    obtain ⟨x, hx, -⟩ := map_ok_iff.1 h
    unfold claim_metric_current_state at hx
    split at hx
    · cases hx
    · rename_i hclaimable
      exact admits_of_claimable id hclaimable
  | history =>
    obtain ⟨x, hx, -⟩ := map_ok_iff.1 h
    unfold claim_metric_history at hx
    split at hx
    · cases hx
    · rename_i hclaimable
      exact admits_of_claimable id hclaimable
  | problemState =>
    obtain ⟨x, hx, -⟩ := map_ok_iff.1 h
    have hsync : claim_problem_sync now op_id token db = .ok (x.1, x.2) := hx
    obtain ⟨o, s, g, hclaimable, -⟩ := claim_problem_sync_ok hsync
    exact admits_of_claimable (fun _ => rfl) hclaimable

/-- And one that finds its operation goes through, but for the gates of the problem worker. -/
theorem claim_of_claimable (hw : w ≠ .problemState)
    (h : (db.core.claimable w.responsibility w.slot op_id).isSome = true) :
    ∃ r, claim domain now w op_id token db = .ok r := by
  obtain ⟨⟨o, s, g⟩, h⟩ := Option.isSome_iff_exists.1 h
  cases w with
  | validation => exact ⟨_, claim_validation h⟩
  | inventory => exact ⟨_, claim_inventory h⟩
  | definitions => exact ⟨_, claim_definitions h⟩
  | currentState => exact ⟨_, claim_currentState h⟩
  | history =>
    have h : db.core.claimable .metric_history_sync (fun _ _ => true) op_id = some (o, s, g) := h
    rw [claim, claim_metric_history, h]
    dsimp only
    split_ifs
    · exact ⟨_, rfl⟩
    · split <;> exact ⟨_, rfl⟩
  | problemState => exact absurd rfl hw

end Claims

/-! ### The sweep -/

/-- The fence of a worker rejects the operation, now and in every state that follows. -/
def RejectedForGood (domain : Domain) (s : System) (w : Worker) (op_id : String) : Prop :=
  ∀ run, Guarded (System.step domain) Forward s run → (run.foldl (System.step domain) s).db.core.admits w op_id = false

/-- The sweep of `c`, which is what the state `s` is or what the statements before the sweep make of it. -/
structure SweepExact (domain : Domain) (s : System) (now : Timestamp) (c : CoreTables) : Prop where
  /-- A pending operation is terminated exactly if it is rejected for good, and stays pending otherwise. -/
  terminated : ∀ w, ∀ o ∈ c.operations, o.responsibility_kind = w.responsibility → o.state = .pending →
    ((_sweep_zombie_pending now c).stateOf o.monitoring_sync_operation_id = some .failed_terminal ↔
      RejectedForGood domain s w o.monitoring_sync_operation_id) ∧
    ((_sweep_zombie_pending now c).stateOf o.monitoring_sync_operation_id = some .pending ↔
      ¬RejectedForGood domain s w o.monitoring_sync_operation_id)
  /-- One that stays pending can be claimed at once. -/
  claimable : ∀ w, ∀ o ∈ c.operations, o.responsibility_kind = w.responsibility →
    (_sweep_zombie_pending now c).stateOf o.monitoring_sync_operation_id = some .pending →
    ((_sweep_zombie_pending now c).claimable w.responsibility w.slot o.monitoring_sync_operation_id).isSome = true ∧
      (w ≠ .problemState → ∀ now' token, ∃ r, claim domain now' w o.monitoring_sync_operation_id token
        { s.db with core := _sweep_zombie_pending now c } = .ok r)
  /-- One that is rejected for good is never claimed. -/
  unclaimed : ∀ w op_id, RejectedForGood domain s w op_id → ∀ run, Guarded (System.step domain) Forward s run →
    ∀ now' token, ∃ e, claim domain now' w op_id token (run.foldl (System.step domain) s).db = .error e
  /-- What is not pending is left alone. -/
  others : ∀ o ∈ c.operations, o.state ≠ .pending → o ∈ (_sweep_zombie_pending now c).operations

section Sweep

variable {domain : Domain} {s : System} {c : CoreTables} {w : Worker} {o : OperationRow}

theorem Still.keyed {c' : CoreTables} (h : Still (fun _ => False) c c') (hk : c.Keyed) (hsrc : c'.sources = c.sources) :
    c'.Keyed := by
  obtain ⟨f, more, hops, hf, hmore⟩ := h.operations
  obtain rfl : more = [] := List.eq_nil_iff_forall_not_mem.2 hmore
  refine ⟨?_, hsrc ▸ hk.sources⟩
  rw [hops, List.append_nil, List.map_map, List.map_congr_left fun o ho => ?_]
  · exact hk.operations
  · exact congrArg AuthoritySnapshot.monitoring_sync_operation_id (hf o ho).1

theorem Still.lagging {c' : CoreTables} (h : Still c.Queued c c') (hl : c.Lagging) (hsrc : c'.sources = c.sources) :
    c'.Lagging := by
  refine hl.carried (h.carried hl fun kind source_id e g hat => ⟨e, g, ?_, Or.inr ⟨rfl, le_rfl⟩⟩)
  rwa [CoreTables.slotAt, CoreTables.source, hsrc]

theorem CoreTables.Lagging.source (h : c.Lagging) (ho : o ∈ c.operations) :
    ∃ s, c.source o.monitoring_source_id = some s := by
  obtain ⟨p, hp, -⟩ := (h.behind o ho).position
  obtain ⟨s, hs, -⟩ := Option.map_eq_some_iff.1 hp
  exact ⟨s, hs⟩

/-- The row of the sweep. -/
theorem sweep_selects (hk : c.Keyed) (hl : c.Lagging) (ho : o ∈ c.operations)
    (hkind : o.responsibility_kind = w.responsibility) (hpending : o.state = .pending) :
    (o.state = .pending ∧ o.claim_token = none ∧ (c.sources.any fun s =>
      s.monitoring_source_id = o.monitoring_source_id ∧ o.superseded s) = true) ↔ ¬c.Admitted o.snapshot := by
  obtain ⟨s, hs⟩ := CoreTables.Lagging.source hl ho
  have hsource : s.monitoring_source_id = o.monitoring_source_id := by simpa using List.find?_some hs
  rw [admitted_iff hs hkind, ← superseded_iff hkind]
  constructor
  · rintro ⟨-, -, hany⟩
    obtain ⟨s', hs', h⟩ := List.any_eq_true.1 hany
    obtain ⟨hid, hsuperseded⟩ := of_decide_eq_true h
    obtain rfl : s' = s := eq_of_key hk.sources hs' (List.mem_of_find?_eq_some hs) (hid.trans hsource.symm)
    exact hsuperseded
  · intro hsuperseded
    refine ⟨hpending, hl.unclaimed o ho hpending, List.any_eq_true.2 ⟨s, List.mem_of_find?_eq_some hs, ?_⟩⟩
    exact decide_eq_true ⟨hsource, hsuperseded⟩

/-- What the sweep makes of an operation. -/
theorem sweep_stateOf (hk : c.Keyed) (hl : c.Lagging) (ho : o ∈ c.operations)
    (hkind : o.responsibility_kind = w.responsibility) (hpending : o.state = .pending) (now : Timestamp) :
    (_sweep_zombie_pending now c).stateOf o.monitoring_sync_operation_id = some .failed_terminal ∧
        ¬c.Admitted o.snapshot ∨
      (_sweep_zombie_pending now c).stateOf o.monitoring_sync_operation_id = some .pending ∧ c.Admitted o.snapshot := by
  have hops : (_sweep_zombie_pending now c).operations = updateWhere
      (fun o => o.state = .pending ∧ o.claim_token = none ∧ c.sources.any fun s =>
        s.monitoring_source_id = o.monitoring_source_id ∧ o.superseded s)
      (fun o => { o with
        state := .failed_terminal, completed_at := some now
        last_error_class := some "authority_superseded" }) c.operations ++ [] := (List.append_nil _).symm
  have hstate := stateOf_of_updates hops (fun _ => rfl) (operation_of_mem hk ho)
  have hselects := sweep_selects hk hl ho hkind hpending
  by_cases hadmitted : c.Admitted o.snapshot
  · rw [if_neg fun h => hselects.1 (of_decide_eq_true h) hadmitted] at hstate
    exact Or.inr ⟨hstate.trans (congrArg some hpending), hadmitted⟩
  · rw [if_pos (decide_eq_true (hselects.2 hadmitted))] at hstate
    exact Or.inl ⟨hstate, hadmitted⟩

theorem Standing.admits_iff (hs : Standing s) (ho : o ∈ s.db.core.operations)
    (hkind : o.responsibility_kind = w.responsibility) :
    s.db.core.admits w o.monitoring_sync_operation_id = true ↔ s.db.core.Admitted o.snapshot := by
  obtain ⟨source, hsource⟩ := CoreTables.Lagging.source hs.lagging ho
  exact Monitoring.admits_iff hs.inStep.keyed ho hkind hsource (hs.lagging.named o ho)

/-- An operation is rejected for good as soon as its fence rejects it. -/
theorem rejectedForGood_iff (hs : Standing s) (ho : o ∈ s.db.core.operations)
    (hkind : o.responsibility_kind = w.responsibility) :
    RejectedForGood domain s w o.monitoring_sync_operation_id ↔ ¬s.db.core.Admitted o.snapshot := by
  rw [← hs.admits_iff ho hkind, Bool.not_eq_true]
  refine ⟨fun h => h [] trivial, fun h run hrun => ?_⟩
  rw [← Bool.not_eq_true, hs.admits_iff ho hkind] at h
  obtain ⟨o', ho', hsame⟩ := mem_run hs ho hrun
  have hid : o'.monitoring_sync_operation_id = o.monitoring_sync_operation_id :=
    congrArg AuthoritySnapshot.monitoring_sync_operation_id hsame
  have hkind' : o'.responsibility_kind = w.responsibility :=
    (congrArg AuthoritySnapshot.responsibility_kind hsame).trans hkind
  rw [← hid, ← Bool.not_eq_true, (hs.run hrun).admits_iff ho' hkind', hsame]
  exact not_admitted_run hs ho h hrun

/-- **Key result**: in every reachable state, and where the statements before it have run, the sweep is exact. -/
theorem sweep_exact (domain : Domain) (bridge : BridgeVersion) (run : List Action)
    (hrun : Guarded (System.step domain) Forward (.empty bridge) run) (cfg : RecoveryConfig) (now : Timestamp)
    (c : CoreTables) (hc : c = (System.exec domain bridge run).db.core ∨
      c = _reap_orphaned_running cfg now (System.exec domain bridge run).db.core) :
    SweepExact domain (System.exec domain bridge run) now c := by
  have hs : Standing (System.exec domain bridge run) := lagging_exec domain bridge run hrun
  generalize System.exec domain bridge run = s at hs hc ⊢
  -- what the statements before the sweep leave is as good
  obtain ⟨hstill, hsrc⟩ : Still (fun _ => False) s.db.core c ∧ c.sources = s.db.core.sources := by
    rcases hc with rfl | rfl
    · exact ⟨.refl _, rfl⟩
    · exact ⟨reap_still cfg _, rfl⟩
  have hk : c.Keyed := Still.keyed hstill hs.inStep.keyed hsrc
  have hl : c.Lagging := Still.lagging (hstill.mono fun _ => False.elim) hs.lagging hsrc
  have hrejected : ∀ w, ∀ o ∈ c.operations, o.responsibility_kind = w.responsibility →
      (RejectedForGood domain s w o.monitoring_sync_operation_id ↔ ¬c.Admitted o.snapshot) := by
    intro w o ho hkind
    obtain ⟨r, hr, hkeeps⟩ := (hstill.operations.mem_or ho).resolve_right id
    have hid : o.monitoring_sync_operation_id = r.monitoring_sync_operation_id :=
      congrArg AuthoritySnapshot.monitoring_sync_operation_id hkeeps.1
    have hkind' : r.responsibility_kind = w.responsibility :=
      (congrArg AuthoritySnapshot.responsibility_kind hkeeps.1).symm.trans hkind
    have hadmitted : c.Admitted r.snapshot ↔ s.db.core.Admitted r.snapshot := by
      constructor
      · refine fun h => ⟨(hstill.positions _).symm.trans h.position, ?_⟩
        simpa only [CoreTables.slotAt, CoreTables.source, hsrc] using h.slot
      · refine fun h => ⟨(hstill.positions _).trans h.position, ?_⟩
        simpa only [CoreTables.slotAt, CoreTables.source, hsrc] using h.slot
    rw [hid, hkeeps.1, hadmitted]
    exact rejectedForGood_iff hs hr hkind'
  refine ⟨fun w o ho hkind hpending => ?_, fun w o ho hkind hleft => ?_, fun w op_id hgood later hlater now' token => ?_,
    fun o ho hnot => ?_⟩
  · rw [hrejected w o ho hkind]
    rcases sweep_stateOf hk hl ho hkind hpending now with ⟨hstate, hnot⟩ | ⟨hstate, hadmitted⟩
    · exact ⟨iff_of_true hstate hnot, iff_of_false (by simp [hstate]) (not_not.2 hnot)⟩
    · exact ⟨iff_of_false (by simp [hstate]) (not_not.2 hadmitted), iff_of_true hstate (not_not.2 hadmitted)⟩
  · have hkeyed : (_sweep_zombie_pending now c).Keyed := Still.keyed (sweep_still c) hk rfl
    have hpending : o.state = .pending := by
      by_contra hnot
      have hrow : o ∈ (_sweep_zombie_pending now c).operations :=
        mem_updateWhere_of_not ho (decide_eq_false fun h => hnot h.1)
      rw [CoreTables.stateOf, operation_of_mem hkeyed hrow] at hleft
      exact hnot (Option.some.inj hleft)
    have hadmitted : c.Admitted o.snapshot := by
      rcases sweep_stateOf hk hl ho hkind hpending now with ⟨hstate, -⟩ | ⟨-, hadmitted⟩
      · cases hstate.symm.trans hleft
      · exact hadmitted
    have hrow : o ∈ (_sweep_zombie_pending now c).operations :=
      mem_updateWhere_of_not ho (decide_eq_false fun h => (sweep_selects hk hl ho hkind hpending).1 h hadmitted)
    obtain ⟨source, hsource⟩ := CoreTables.Lagging.source hl ho
    have hfound := (claimable_isSome_iff hkeyed hrow hkind hsource (hl.named o ho)).2
      ⟨hpending, hl.unclaimed o ho hpending, hadmitted.position, hadmitted.slot⟩
    exact ⟨hfound, fun hw now' token => claim_of_claimable hw hfound⟩
  · cases hclaim : claim domain now' w op_id token (later.foldl (System.step domain) s).db with
    | error e => exact ⟨e, rfl⟩
    | ok r =>
      have hadmits := admits_of_claim hclaim
      rw [hgood later hlater] at hadmits
      cases hadmits
  · exact mem_updateWhere_of_not ho (decide_eq_false fun h => hnot h.1)

end Sweep

/-- A definition poll that is queued before a new epoch, and a poll of current states. -/
def staleEpoch : List Action :=
  [.createSource 0 "zabbix" "https://zabbix" "cred", .enqueueDefinitions 1 "mon-src_0",
    .advanceEpoch "mon-src_0" .item_definition 2 0, .enqueueCurrentState 2 "mon-src_0"]

/-- The first is rejected for good, and the second is not. -/
theorem staleEpoch_swept :
    RejectedForGood Domain.tested (System.exec Domain.tested .publicationBridge staleEpoch) .definitions "mon-sync_4" ∧
    ¬RejectedForGood Domain.tested (System.exec Domain.tested .publicationBridge staleEpoch) .currentState
      "mon-sync_5" := by
  have hexact := sweep_exact Domain.tested .publicationBridge staleEpoch
    ⟨trivial, trivial, trivial, trivial, trivial⟩ .default 3 _ (Or.inl rfl)
  constructor
  · exact (hexact.terminated .definitions ((System.exec Domain.tested .publicationBridge staleEpoch).db.core.operations.get
      ⟨1, by decide⟩) (List.get_mem ..) (by decide) (by decide)).1.1 (by decide)
  · exact (hexact.terminated .currentState ((System.exec Domain.tested .publicationBridge staleEpoch).db.core.operations.get
      ⟨2, by decide⟩) (List.get_mem ..) (by decide) (by decide)).2.1 (by decide)

end Sync

end JLMirror.Monitoring
