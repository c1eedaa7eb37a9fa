import JLMirror.Foundations.Growth
import JLMirror.Monitoring.HealthEvidence

/-!
# The authority of sources only moves forward

An operation is queued under the authority of its source, that is its generation and its two revisions, and a poll also
under a slot. The fence of a claim compares them with the source as it is by then. What an operation was queued under
never changes, and the source only moves on: an operation that a fence rejects is behind its source, and stays so.

## The model

* `Admitted` is the fence of an operation on its source: equal authority and, for the two polls with slots, the next
  slot of the source.
* `Forward` is what the steps of a run are held to. A new authority counts its revisions up, and comes under a generation
  that it keeps or that no source has had. A worker does not report an operation as `pending`. Both are about code that
  is not in the repository: nothing in it moves an authority, and the results come from the library of the workers.

## What is proved

* `Still`: what a transaction does to operations and authorities, one lemma for each.
* **Key result** (`lagging_exec`): in every such run each operation is behind its source or level with it, its
  generation is there, and a pending one has no token.
* **Key result** (`not_admitted_run`): an operation that its fence rejects is rejected in every state that follows.
-/

namespace JLMirror.Monitoring

open JLMirror.Foundations Sync

/-! ### Fences -/

/-- The authority of a source. -/
structure SourcePosition where
  source_instance_generation : String
  configuration_revision : ℕ
  scope_revision : ℕ
  deriving DecidableEq

/-- The authority of a source, as it is. -/
def SourceRow.position (s : SourceRow) : SourcePosition :=
  ⟨s.active_source_instance_generation, s.configuration_revision, s.scope_revision⟩

/-- The authority that an operation was queued under. -/
def OperationRow.position (o : OperationRow) : SourcePosition :=
  ⟨o.source_instance_generation, o.configuration_revision, o.scope_revision⟩

/-- The authority of the source of an id. -/
def CoreTables.positionAt (c : CoreTables) (source_id : String) : Option SourcePosition :=
  (c.source source_id).map SourceRow.position

/-- The poll whose slots an operation of the kind is for. -/
def ResponsibilityKind.slotKind : ResponsibilityKind → Option SlotKind
  | .metric_definition_poll => some .item_definition
  | .current_state_poll => some .current_state
  | _ => none

/-- Epoch and generation of an operation. -/
def OperationRow.slot (o : OperationRow) : SlotKind → Option ℕ × Option ℕ
  | .item_definition => (o.item_definition_poll_epoch, o.item_definition_poll_generation)
  | .current_state => (o.current_state_poll_epoch, o.current_state_poll_generation)

/-- What no transaction changes of an operation. -/
structure AuthoritySnapshot where
  monitoring_sync_operation_id : String
  monitoring_source_id : String
  position : SourcePosition
  responsibility_kind : ResponsibilityKind
  slot : SlotKind → Option ℕ × Option ℕ

/-- What an operation was queued under. -/
def OperationRow.snapshot (o : OperationRow) : AuthoritySnapshot :=
  ⟨o.monitoring_sync_operation_id, o.monitoring_source_id, o.position, o.responsibility_kind, o.slot⟩

/-- The source of the operation has its authority and, where the kind has slots, the slot before its own. -/
structure CoreTables.Admitted (c : CoreTables) (a : AuthoritySnapshot) : Prop where
  position : c.positionAt a.monitoring_source_id = some a.position
  slot : ∀ kind, a.responsibility_kind.slotKind = some kind →
    ∃ e g, c.slotAt kind a.monitoring_source_id = some (e, g) ∧ a.slot kind = (some e, some (g + 1))

/-- The operation is not ahead of its source. -/
structure CoreTables.Behind (c : CoreTables) (a : AuthoritySnapshot) : Prop where
  position : ∃ p, c.positionAt a.monitoring_source_id = some p ∧
    a.position.configuration_revision ≤ p.configuration_revision ∧ a.position.scope_revision ≤ p.scope_revision
  slot : ∀ kind e g, a.responsibility_kind.slotKind = some kind → a.slot kind = (some e, some g) →
    ∃ e' g', c.slotAt kind a.monitoring_source_id = some (e', g') ∧ (e < e' ∨ e = e' ∧ g ≤ g' + 1)

/-- The generation of a source is there. -/
def CoreTables.Names (c : CoreTables) (source_id generation : String) : Prop :=
  ∃ g ∈ c.generations, g.monitoring_source_id = source_id ∧ g.source_instance_generation = generation

/-- A pending operation has no token. -/
def OperationRow.Unclaimed (o : OperationRow) : Prop := o.state = .pending → o.claim_token = none

/-- Sources move forward. -/
structure CoreTables.Onward (c c' : CoreTables) : Prop where
  position : ∀ source_id p, c.positionAt source_id = some p → ∃ p', c'.positionAt source_id = some p' ∧
    p.configuration_revision ≤ p'.configuration_revision ∧ p.scope_revision ≤ p'.scope_revision ∧
    (p'.source_instance_generation = p.source_instance_generation ∨ ¬c.Names source_id p'.source_instance_generation)
  slot : ∀ kind source_id e g, c.slotAt kind source_id = some (e, g) →
    ∃ e' g', c'.slotAt kind source_id = some (e', g') ∧ (e < e' ∨ e = e' ∧ g ≤ g')

section Onward

variable {c c' : CoreTables} {a : AuthoritySnapshot}

theorem CoreTables.Behind.onward (h : c.Behind a) (honward : c.Onward c') : c'.Behind a := by
  constructor
  · obtain ⟨p, hp, hconf, hscope⟩ := h.position
    obtain ⟨p', hp', hconf', hscope', -⟩ := honward.position _ p hp
    exact ⟨p', hp', hconf.trans hconf', hscope.trans hscope'⟩
  · intro kind e g hkind hslot
    obtain ⟨e₁, g₁, hat, hlt⟩ := h.slot kind e g hkind hslot
    obtain ⟨e₂, g₂, hat', hlt'⟩ := honward.slot kind _ e₁ g₁ hat
    exact ⟨e₂, g₂, hat', by omega⟩

/-- What an operation is queued under, its fence admits no more once it has rejected it. -/
theorem not_admitted_onward (hbehind : c.Behind a)
    (hnames : c.Names a.monitoring_source_id a.position.source_instance_generation) (honward : c.Onward c')
    (h : ¬c.Admitted a) : ¬c'.Admitted a := by
  intro h'
  obtain ⟨p, hp, hconf, hscope⟩ := hbehind.position
  obtain ⟨p', hp', hconf', hscope', hgen⟩ := honward.position _ p hp
  obtain rfl : a.position = p' := Option.some.inj (h'.position.symm.trans hp')
  -- the source is level with the operation again, so it has never been ahead
  have hsame : p = a.position := by
    have hgeneration : p.source_instance_generation = a.position.source_instance_generation :=
      (hgen.resolve_right fun hnot => hnot hnames).symm
    have hconfiguration := le_antisymm hconf' hconf
    have hscoped := le_antisymm hscope' hscope
    cases p
    cases ha : a.position
    simp_all
  refine h ⟨hsame ▸ hp, fun kind hkind => ?_⟩
  obtain ⟨e, g, hat, hslot⟩ := h'.slot kind hkind
  obtain ⟨e₁, g₁, hat₁, hlt⟩ := hbehind.slot kind e (g + 1) hkind hslot
  obtain ⟨e₂, g₂, hat₂, hlt'⟩ := honward.slot kind _ e₁ g₁ hat₁
  obtain ⟨rfl, rfl⟩ : e₂ = e ∧ g₂ = g := by simpa using hat₂.symm.trans hat
  obtain ⟨rfl, rfl⟩ : e₁ = e₂ ∧ g₁ = g₂ := by omega
  exact ⟨e₁, g₁, hat₁, hslot⟩

end Onward

/-! ### What a transaction does -/

/-- The operation later on. -/
def OperationRow.Keeps (o o' : OperationRow) : Prop := o'.snapshot = o.snapshot ∧ (o.Unclaimed → o'.Unclaimed)

theorem OperationRow.Keeps.refl (o : OperationRow) : o.Keeps o := ⟨rfl, id⟩

theorem OperationRow.Keeps.trans (o p q : OperationRow) (h : o.Keeps p) (h' : p.Keeps q) : o.Keeps q :=
  ⟨h'.1.trans h.1, h'.2 ∘ h.2⟩

theorem OperationRow.Keeps.of_unclaimed {o o' : OperationRow} (h : o'.snapshot = o.snapshot) (h' : o'.Unclaimed) :
    o.Keeps o' := ⟨h, fun _ => h'⟩

/-- Operations go on, others are inserted, and the authorities stay. -/
structure Still (new : OperationRow → Prop) (c c' : CoreTables) : Prop where
  operations : GrownBy OperationRow.Keeps new c.operations c'.operations
  positions : ∀ source_id, c'.positionAt source_id = c.positionAt source_id
  generations : c'.generations = c.generations

section Still

variable {new new' : OperationRow → Prop} {c d e : CoreTables}

theorem Still.refl (c : CoreTables) : Still new c c := ⟨.of_eq rfl .refl, fun _ => rfl, rfl⟩

theorem Still.mono (h : Still new c d) (hnew : ∀ o, new o → new' o) : Still new' c d :=
  ⟨h.operations.mono hnew, h.positions, h.generations⟩

theorem Still.trans (h : Still (fun _ => False) c d) (h' : Still new d e) : Still new c e where
  operations := h.operations.trans OperationRow.Keeps.trans h'.operations
  positions source_id := (h'.positions source_id).trans (h.positions source_id)
  generations := h'.generations.trans h.generations

variable {q : SourceRow → Bool} {g : SourceRow → SourceRow}

theorem positionAt_updateWhere (hsrc : d.sources = updateWhere q g c.sources)
    (hg : ∀ s, (g s).monitoring_source_id = s.monitoring_source_id) (source_id : String) :
    d.positionAt source_id = (c.source source_id).map fun s => (if q s then g s else s).position := by
  rw [CoreTables.positionAt, CoreTables.source, hsrc, find?_updateWhere fun s _ => by rw [hg], Option.map_map]
  rfl

variable {p : OperationRow → Bool} {f : OperationRow → OperationRow} {more : List OperationRow}

theorem Still.of_updates (hops : d.operations = updateWhere p f c.operations ++ more)
    (hsrc : d.sources = updateWhere q g c.sources) (hgen : d.generations = c.generations)
    (hf : ∀ o : OperationRow, o.Keeps (f o)) (hg : ∀ s, (g s).monitoring_source_id = s.monitoring_source_id)
    (hpos : ∀ s, (g s).position = s.position) (hnew : ∀ o ∈ more, new o) : Still new c d := by
  refine ⟨.of_updates hops .refl hf hnew, fun source_id => ?_, hgen⟩
  rw [positionAt_updateWhere hsrc hg, CoreTables.positionAt]
  congr 1
  funext s
  split_ifs
  · exact hpos s
  · rfl

theorem Still.of_operations (hops : d.operations = updateWhere p f c.operations) (hsrc : d.sources = c.sources)
    (hgen : d.generations = c.generations) (hf : ∀ o : OperationRow, o.Keeps (f o)) : Still new c d :=
  ⟨.of_update hops .refl hf, fun source_id => by rw [CoreTables.positionAt, CoreTables.source, hsrc]; rfl, hgen⟩

theorem Still.of_append (hops : d.operations = c.operations ++ more) (hsrc : d.sources = c.sources)
    (hgen : d.generations = c.generations) (hnew : ∀ o ∈ more, new o) : Still new c d :=
  ⟨.of_append hops .refl hnew, fun source_id => by rw [CoreTables.positionAt, CoreTables.source, hsrc]; rfl, hgen⟩

end Still

section Transactions

variable {domain : Domain} {now : Timestamp} {new : OperationRow → Prop}

variable {db db' : SyncDb}

theorem insertOperation_still {kind : String} {row : String → OperationRow}
    (h : db.insertOperation kind row = .ok db') (hnew : ∀ op_id, new (row op_id)) : Still new db.core db'.core := by
  obtain ⟨-, rfl⟩ := insertOperation_ok h
  exact .of_append rfl rfl rfl (List.forall_mem_singleton.2 (hnew _))

theorem enqueue_still {kind : ResponsibilityKind} {set : SourceRow → OperationRow → OperationRow} {source_id : String}
    (h : db.enqueue now kind set source_id = .ok db')
    (hnew : ∀ s op_id, db.core.source source_id = some s → new (set s (pendingOperation now op_id kind s))) :
    Still new db.core db'.core := by
  obtain ⟨s, hs, h⟩ := enqueue_ok h
  exact insertOperation_still h fun op_id => hnew s op_id hs

theorem markRunning_still (op_id claim_token : String) (c : CoreTables) :
    Still new c (c.markRunning now op_id claim_token) :=
  .of_operations rfl rfl rfl fun _ => .of_unclaimed rfl nofun

theorem succeedEmpty_still (op_id claim_token : String) (c : CoreTables) :
    Still new c (c.succeedEmpty now op_id claim_token) :=
  .of_operations rfl rfl rfl fun _ => .of_unclaimed rfl nofun

theorem requeue_still (source_id op_id : String) (c : CoreTables) :
    Still new c (requeue_sync_operation source_id op_id c).2 := by
  unfold requeue_sync_operation
  dsimp only
  split_ifs
  · exact .of_updates (List.append_nil _).symm rfl rfl (fun _ => .of_unclaimed rfl fun _ => rfl) (fun _ => rfl)
      (fun _ => rfl) (by simp)
  · exact .of_operations rfl rfl rfl fun _ => .of_unclaimed rfl fun _ => rfl

theorem reap_still (cfg : RecoveryConfig) (c : CoreTables) : Still new c (_reap_orphaned_running cfg now c) := by
  have hrequeued : Still (fun _ => False) c { c with
      operations := updateWhere (fun o => o.orphaned cfg now ∧ o.recovery_count < cfg.recovery_max)
        (fun o => { o with
          state := .pending, claim_token := none, started_at := none, recovery_count := o.recovery_count + 1
          last_error_class := some "claim.orphaned" }) c.operations } :=
    .of_operations rfl rfl rfl fun _ => .of_unclaimed rfl fun _ => rfl
  refine hrequeued.trans ?_
  unfold _reap_orphaned_running
  exact .of_operations rfl rfl rfl fun _ => .of_unclaimed rfl nofun

theorem sweep_still (c : CoreTables) : Still new c (_sweep_zombie_pending now c) :=
  .of_operations rfl rfl rfl fun _ => .of_unclaimed rfl nofun

theorem recoveryPass_still (cfg : RecoveryConfig) (slots : ℕ) (c : CoreTables) :
    Still new c (recoveryPass cfg now slots c) := by
  have hreconcile : ∀ c, Still (fun _ => False) c (_reconcile_terminal cfg now slots c) := fun c =>
    reconcile_rel cfg now slots c .refl .trans requeue_still
  exact (reap_still cfg c).trans ((sweep_still _).trans ((hreconcile _).mono fun _ => False.elim))

theorem finish_still {φ : Type} (claim : SyncClaim) (result : SyncResult φ) (error : Option String) (kind : String)
    {slot : SourceRow → SourceRow} {record : OperationRow → OperationRow} (c : CoreTables)
    (hstate : result.operation_state ≠ .pending) (hslot : ∀ s, (slot s).monitoring_source_id = s.monitoring_source_id)
    (hpos : ∀ s, (slot s).position = s.position)
    (hrecord : ∀ o, (record o).snapshot = o.snapshot ∧ (record o).state = o.state) :
    Still new c (c.finish now claim result error kind slot record) := by
  refine .of_updates ((finish_operations ..).trans (List.append_nil _).symm) (finish_sources ..)
    (finish_generations ..) (fun o => .of_unclaimed (hrecord _).1 fun hpending => ?_) (fun s => hslot _)
    (fun s => hpos _) (by simp)
  rw [(hrecord _).2] at hpending
  exact absurd hpending hstate

variable {claim : ProblemStateClaim}

theorem claim_problem_sync_still {op_id token : String} (h : claim_problem_sync now op_id token db = .ok (claim, db')) :
    Still new db.core db'.core := by
  obtain ⟨-, -, -, -, hgens, hsources, hops⟩ := claim_problem_sync_core h
  exact .of_updates (hops.trans (List.append_nil _).symm) hsources hgens (fun _ => .of_unclaimed rfl nofun)
    (fun _ => rfl) (fun _ => rfl) (by simp)

theorem complete_problem_sync_still {result : ProblemStateResult} {raw_rows : List ZabbixProblemEvidence}
    {recoveries : List ZabbixRecoveryEvidence}
    (h : complete_problem_sync now claim result raw_rows recoveries db = .ok db')
    (hnew : ∀ o : OperationRow, o.responsibility_kind = .host_inventory_sync → o.claim_token = none →
      o.monitoring_source_id = claim.monitoring_source_id →
      o.position = ⟨claim.source_instance_generation, claim.configuration_revision, claim.scope_revision⟩ → new o) :
    Still new db.core db'.core := by
  obtain ⟨-, hsources, hgens, more, -, hmore, -, hops⟩ := complete_problem_sync_core h
  refine .of_updates hops hsources hgens (fun _ => .of_unclaimed rfl fun _ => rfl) (fun _ => rfl) (fun _ => rfl) ?_
  intro o ho
  obtain ⟨hkind, -, hsource, htoken, hgen, hconf, hscope⟩ := hmore o ho
  refine hnew o hkind htoken hsource ?_
  rw [OperationRow.position, hgen, hconf, hscope]

/-- The page that a completion of the history queues. -/
theorem chainHistory_still {claim : MetricHistoryClaim} {result : MetricHistoryResult}
    (h : chainHistory domain now claim result db = .ok db')
    (hnew : ∀ o : OperationRow, o.responsibility_kind = .metric_history_sync → o.claim_token = none →
      o.monitoring_source_id = claim.monitoring_source_id →
      o.position = ⟨claim.source_instance_generation, claim.configuration_revision, claim.scope_revision⟩ → new o) :
    Still new db.core db'.core := by
  unfold chainHistory at h
  split_ifs at h
  · exact insertOperation_still h fun op_id => hnew _ rfl rfl rfl rfl
  · exact Except.ok.inj h ▸ .refl _

end Transactions

/-! ### The invariant of the tables -/

/-- No operation is ahead of its source or of a generation that is not there, and none is pending with a token. -/
structure CoreTables.Lagging (c : CoreTables) : Prop where
  unclaimed : ∀ o ∈ c.operations, o.Unclaimed
  behind : ∀ o ∈ c.operations, c.Behind o.snapshot
  named : ∀ o ∈ c.operations, c.Names o.monitoring_source_id o.source_instance_generation
  active : ∀ source_id p, c.positionAt source_id = some p → c.Names source_id p.source_instance_generation

/-- An operation that a transaction may insert. -/
structure CoreTables.Queued (c : CoreTables) (o : OperationRow) : Prop where
  unclaimed : o.Unclaimed
  behind : c.Behind o.snapshot
  named : c.Names o.monitoring_source_id o.source_instance_generation

/-- What a step of a run does. -/
structure Carried (c c' : CoreTables) : Prop where
  operations : GrownBy OperationRow.Keeps c'.Queued c.operations c'.operations
  onward : c.Onward c'
  names : ∀ source_id generation, c.Names source_id generation → c'.Names source_id generation
  active : ∀ source_id p, c'.positionAt source_id = some p → c'.Names source_id p.source_instance_generation

section Lagging

variable {c c' : CoreTables}

theorem source_self {source_id : String} {s : SourceRow} (h : c.source source_id = some s) :
    c.source s.monitoring_source_id = some s := by
  have hid : s.monitoring_source_id = source_id := by simpa using List.find?_some h
  rwa [hid]

variable {o : OperationRow}

theorem OperationRow.Keeps.source_eq {o' : OperationRow} (h : o.Keeps o') :
    o'.monitoring_source_id = o.monitoring_source_id := congrArg AuthoritySnapshot.monitoring_source_id h.1

theorem OperationRow.Keeps.position_eq {o' : OperationRow} (h : o.Keeps o') : o'.position = o.position :=
  congrArg AuthoritySnapshot.position h.1

theorem CoreTables.Lagging.carried (h : c.Lagging) (hc : Carried c c') : c'.Lagging := by
  have hrow : ∀ o' ∈ c'.operations, c'.Queued o' := by
    intro o' ho'
    rcases hc.operations.mem_or ho' with ⟨o, ho, hkeeps⟩ | hnew
    · refine ⟨hkeeps.2 (h.unclaimed o ho), hkeeps.1 ▸ (h.behind o ho).onward hc.onward, ?_⟩
      have hgen : o'.source_instance_generation = o.source_instance_generation :=
        congrArg SourcePosition.source_instance_generation hkeeps.position_eq
      rw [hkeeps.source_eq, hgen]
      exact hc.names _ _ (h.named o ho)
    · exact hnew
  exact ⟨fun o ho => (hrow o ho).unclaimed, fun o ho => (hrow o ho).behind, fun o ho => (hrow o ho).named, hc.active⟩

/-- A transaction that leaves the authorities alone. -/
theorem Still.carried (h : Still c.Queued c c') (hlagging : c.Lagging)
    (hslot : ∀ kind source_id e g, c.slotAt kind source_id = some (e, g) →
      ∃ e' g', c'.slotAt kind source_id = some (e', g') ∧ (e < e' ∨ e = e' ∧ g ≤ g')) : Carried c c' := by
  have honward : c.Onward c' :=
    ⟨fun source_id p hp => ⟨p, (h.positions source_id).trans hp, le_rfl, le_rfl, Or.inl rfl⟩, hslot⟩
  have hnames : ∀ source_id generation, c.Names source_id generation → c'.Names source_id generation := by
    intro source_id generation hname
    rwa [CoreTables.Names, h.generations]
  refine ⟨h.operations.mono fun o ho => ?_, honward, hnames, fun source_id p hp => ?_⟩
  · exact ⟨ho.unclaimed, ho.behind.onward honward, hnames _ _ ho.named⟩
  · exact hnames _ _ (hlagging.active source_id p ((h.positions source_id).symm.trans hp))

/-- An operation that is queued under its source. -/
theorem CoreTables.Lagging.queued (h : c.Lagging) {s : SourceRow} (hs : c.source o.monitoring_source_id = some s)
    (htoken : o.claim_token = none) (hposition : o.position = s.position)
    (hslot : ∀ kind e g, o.responsibility_kind.slotKind = some kind → o.slot kind = (some e, some g) →
      slotOf s kind = (e, g - 1) ∧ 0 < g) : c.Queued o := by
  have hat : c.positionAt o.monitoring_source_id = some s.position := by rw [CoreTables.positionAt, hs, Option.map_some]
  refine ⟨fun _ => htoken, ⟨⟨s.position, hat, ?_, ?_⟩, fun kind e g hkind ho => ?_⟩, ?_⟩
  · exact (congrArg SourcePosition.configuration_revision hposition).le
  · exact (congrArg SourcePosition.scope_revision hposition).le
  · obtain ⟨hsame, hpos⟩ := hslot kind e g hkind ho
    refine ⟨e, g - 1, ?_, Or.inr ⟨rfl, by omega⟩⟩
    rw [CoreTables.slotAt, show c.source o.snapshot.monitoring_source_id = some s from hs, Option.map_some, hsame]
  · have hname := h.active _ _ hat
    rwa [← hposition] at hname

/-- An operation without a slot, that is queued under the authority of another. -/
theorem CoreTables.Lagging.chained (h : c.Lagging) {r : OperationRow} (hr : r ∈ c.operations)
    (hsource : o.monitoring_source_id = r.monitoring_source_id) (hposition : o.position = r.position)
    (htoken : o.claim_token = none) (hkind : o.responsibility_kind.slotKind = none) : c.Queued o := by
  obtain ⟨p, hp, hconf, hscope⟩ := (h.behind r hr).position
  refine ⟨fun _ => htoken, ⟨⟨p, (congrArg c.positionAt hsource).trans hp, ?_, ?_⟩, fun kind e g hk => ?_⟩, ?_⟩
  · exact (congrArg SourcePosition.configuration_revision hposition).le.trans hconf
  · exact (congrArg SourcePosition.scope_revision hposition).le.trans hscope
  · cases hkind.symm.trans hk
  · have hname := h.named r hr
    rwa [← hsource, ← show o.source_instance_generation = r.source_instance_generation from
      congrArg SourcePosition.source_instance_generation hposition] at hname

end Lagging

/-! ### Creating a source, and moving its authority -/

section Sources

variable {c : CoreTables}

/-- The source of an id, where one is inserted. -/
theorem source_of_append {c' : CoreTables} {r : SourceRow} (hsrc : c'.sources = c.sources ++ [r])
    (hnew : ∀ s ∈ c.sources, s.monitoring_source_id ≠ r.monitoring_source_id) (source_id : String) :
    c'.source source_id = if source_id = r.monitoring_source_id then some r else c.source source_id := by
  rw [CoreTables.source, hsrc, List.find?_append]
  split_ifs with hid
  · subst hid
    have hnone : (c.sources.find? fun s => s.monitoring_source_id = r.monitoring_source_id) = none :=
      List.find?_eq_none.2 fun s hs hsame => hnew s hs (of_decide_eq_true hsame)
    simp [hnone]
  · cases hs : c.sources.find? fun s => s.monitoring_source_id = source_id with
    | some s => simp [CoreTables.source, hs]
    | none => simp [CoreTables.source, hs, Ne.symm hid]

/-- A source that is created, with its generation and its validation. -/
theorem Carried.of_created {c' : CoreTables} {r : SourceRow} {g : SourceGeneration} {o : OperationRow} (h : c.Lagging)
    (hnew : ∀ s ∈ c.sources, s.monitoring_source_id ≠ r.monitoring_source_id)
    (hsrc : c'.sources = c.sources ++ [r]) (hgens : c'.generations = c.generations ++ [g])
    (hops : c'.operations = c.operations ++ [o]) (hnames : g.monitoring_source_id = r.monitoring_source_id ∧
      g.source_instance_generation = r.active_source_instance_generation)
    (hsource : o.monitoring_source_id = r.monitoring_source_id) (hposition : o.position = r.position)
    (htoken : o.claim_token = none) (hkind : o.responsibility_kind.slotKind = none) : Carried c c' := by
  have hat := source_of_append hsrc hnew
  have hmono : ∀ source_id generation, c.Names source_id generation → c'.Names source_id generation := by
    rintro source_id generation ⟨g', hg', hname⟩
    exact ⟨g', hgens ▸ List.mem_append_left _ hg', hname⟩
  have hown : c'.Names r.monitoring_source_id r.active_source_instance_generation :=
    ⟨g, hgens ▸ List.mem_append_right _ (List.mem_singleton.2 rfl), hnames⟩
  -- a source that was there is another one
  have hkept : ∀ source_id s, c.source source_id = some s → c'.source source_id = some s := by
    intro source_id s hs
    rw [hat, if_neg, hs]
    rintro rfl
    exact hnew s (List.mem_of_find?_eq_some hs) (by simpa using List.find?_some hs)
  have honward : c.Onward c' := by
    constructor
    · intro source_id p hp
      obtain ⟨s, hs, rfl⟩ := Option.map_eq_some_iff.1 hp
      exact ⟨s.position, by rw [CoreTables.positionAt, hkept _ s hs, Option.map_some], le_rfl, le_rfl, Or.inl rfl⟩
    · intro kind source_id e g hp
      obtain ⟨s, hs, heq⟩ := Option.map_eq_some_iff.1 hp
      exact ⟨e, g, by rw [CoreTables.slotAt, hkept _ s hs, Option.map_some, heq], Or.inr ⟨rfl, le_rfl⟩⟩
  have hcreated : c'.positionAt o.monitoring_source_id = some o.position := by
    rw [CoreTables.positionAt, hat, if_pos hsource, Option.map_some, hposition]
  refine ⟨.of_append hops .refl (List.forall_mem_singleton.2 ⟨fun _ => htoken, ⟨?_, ?_⟩, ?_⟩), honward, hmono, ?_⟩
  · exact ⟨_, hcreated, le_rfl, le_rfl⟩
  · intro kind e g hk
    cases hkind.symm.trans hk
  · rw [hsource, show o.source_instance_generation = r.active_source_instance_generation from
      congrArg SourcePosition.source_instance_generation hposition]
    exact hown
  · intro source_id p hp
    rw [CoreTables.positionAt, hat] at hp
    split_ifs at hp with hid
    · obtain rfl := Option.some.inj hp
      exact hid ▸ hown
    · exact hmono _ _ (h.active source_id p hp)

theorem insertZabbixSource_carried {now : Timestamp} {ref url credential : String} {db db' : SyncDb}
    (hl : db.core.Lagging) (h : insertZabbixSource now ref url credential db = .ok db') : Carried db.core db'.core := by
  obtain ⟨generations, hgens, h⟩ := bind_ok_iff.1 h
  obtain ⟨operations, hops, h⟩ := bind_ok_iff.1 h
  obtain ⟨sources, hsrc, h⟩ := bind_ok_iff.1 h
  obtain ⟨-, rfl⟩ := insertUnless_ok_iff.1 hgens
  obtain ⟨-, rfl⟩ := insertUnless_ok_iff.1 hops
  obtain ⟨hnew, rfl⟩ := insertUnless_ok_iff.1 hsrc
  obtain rfl := Except.ok.inj h
  have hnew : ∀ s ∈ db.core.sources, s.monitoring_source_id ≠ opaqueId "mon-src" db.nextId :=
    fun s hs hsame => of_decide_eq_false (hnew s hs) (Or.inl hsame)
  exact .of_created hl hnew rfl rfl rfl ⟨rfl, rfl⟩ rfl rfl rfl rfl

/-- A new authority counts its revisions up, and names the generation of the source, or one that it never had. -/
structure LaterAuthority (c : CoreTables) (source_id : String) (a : Authority) (g : SourceGeneration) : Prop where
  named : g.monitoring_source_id = source_id ∧ g.source_instance_generation = a.active_source_instance_generation
  later : ∀ p, c.positionAt source_id = some p →
    p.configuration_revision ≤ a.configuration_revision ∧ p.scope_revision ≤ a.scope_revision ∧
      (a.active_source_instance_generation = p.source_instance_generation ∨
        ¬c.Names source_id a.active_source_instance_generation)

theorem moveAuthority_carried {source_id : String} {a : Authority} {g : SourceGeneration} (h : c.Lagging)
    (hlater : LaterAuthority c source_id a g) : Carried c (moveAuthority source_id a g c) := by
  have hat := positionAt_updateWhere (c := c) (d := moveAuthority source_id a g c) rfl (fun _ => rfl)
  have hmono : ∀ id generation, c.Names id generation → (moveAuthority source_id a g c).Names id generation := by
    rintro id generation ⟨g', hg', hname⟩
    refine ⟨g', ?_, hname⟩
    unfold moveAuthority
    dsimp only
    split_ifs
    · exact hg'
    · exact List.mem_append_left _ hg'
  have hown : (moveAuthority source_id a g c).Names source_id a.active_source_instance_generation := by
    by_cases hthere : (c.generations.any fun g' => decide (g'.monitoring_source_id = g.monitoring_source_id ∧
        g'.source_instance_generation = g.source_instance_generation)) = true
    · obtain ⟨g', hg', hsame⟩ := List.any_eq_true.1 hthere
      obtain ⟨hsource, hgen⟩ := of_decide_eq_true hsame
      exact hmono _ _ ⟨g', hg', hsource.trans hlater.named.1, hgen.trans hlater.named.2⟩
    · refine ⟨g, ?_, hlater.named⟩
      unfold moveAuthority
      dsimp only
      rw [if_neg hthere]
      exact List.mem_append_right _ (List.mem_singleton.2 rfl)
  have hposition : ∀ id p, (moveAuthority source_id a g c).positionAt id = some p ↔ ∃ s, c.source id = some s ∧
      p = if id = source_id then
        ⟨a.active_source_instance_generation, a.configuration_revision, a.scope_revision⟩ else s.position := by
    intro id p
    rw [hat, Option.map_eq_some_iff]
    refine exists_congr fun s => and_congr_right fun hs => ?_
    have hid : s.monitoring_source_id = id := by simpa using List.find?_some hs
    subst hid
    by_cases hsel : s.monitoring_source_id = source_id
    · rw [if_pos (decide_eq_true hsel), if_pos hsel, eq_comm]
      rfl
    · rw [if_neg (by simpa using hsel), if_neg hsel, eq_comm]
  refine ⟨.of_eq rfl .refl, ⟨fun id p hp => ?_, fun kind id e g' hp => ?_⟩, hmono, fun id p hp => ?_⟩
  · obtain ⟨s, hs, rfl⟩ := Option.map_eq_some_iff.1 hp
    by_cases hid : id = source_id
    · exact ⟨_, (hposition id _).2 ⟨s, hs, (if_pos hid).symm⟩, hid ▸ hlater.later s.position (hid ▸ hp)⟩
    · exact ⟨_, (hposition id _).2 ⟨s, hs, (if_neg hid).symm⟩, le_rfl, le_rfl, Or.inl rfl⟩
  · refine ⟨e, g', ?_, Or.inr ⟨rfl, le_rfl⟩⟩
    rw [(moveAuthority_quiet source_id a g c).slots, hp]
  · obtain ⟨s, hs, rfl⟩ := (hposition id p).1 hp
    split_ifs with hid
    · exact hid ▸ hown
    · exact hmono _ _ (h.active id _ (by rw [CoreTables.positionAt, hs, Option.map_some]))

end Sources

/-! ### The steps of the system -/

namespace Sync

variable {domain : Domain}

/-- The state that a report asks for. -/
def Report.operation_state : Report → SyncOperationState
  | .validation result _ => result.operation_state
  | .inventory result _ => result.operation_state
  | .definitions result _ => result.operation_state
  | .currentState result => result.operation_state
  | .history result _ => result.operation_state
  | .problemState result _ _ => result.operation_state

/-- The authority that a claim was made under. -/
def Claim.position : Claim → SourcePosition
  | .validation c => ⟨c.source_instance_generation, c.configuration_revision, c.scope_revision⟩
  | .inventory c => ⟨c.source_instance_generation, c.configuration_revision, c.scope_revision⟩
  | .definitions c => ⟨c.source_instance_generation, c.configuration_revision, c.scope_revision⟩
  | .currentState c => ⟨c.source_instance_generation, c.configuration_revision, c.scope_revision⟩
  | .history c => ⟨c.source_instance_generation, c.configuration_revision, c.scope_revision⟩
  | .problemState c => ⟨c.source_instance_generation, c.configuration_revision, c.scope_revision⟩

/-- Authorities move forward, and no worker reports an operation as pending. -/
def Forward (s : System) : Action → Prop
  | .moveAuthority source_id a g => LaterAuthority s.db.core source_id a g
  | .complete _ _ report => report.operation_state ≠ .pending
  | _ => True

/-- An operation of the source and the authority of a claim. -/
def OwnedIn (c : CoreTables) (claim : Claim) : Prop :=
  ∃ o ∈ c.operations, o.monitoring_source_id = claim.monitoring_source_id ∧ o.position = claim.position

/-- The invariant of a run. -/
structure Standing (s : System) : Prop where
  inStep : InStep s
  lagging : s.db.core.Lagging
  owned : ∀ c ∈ s.issued, OwnedIn s.db.core c

variable {s : System}

/-- The slots of a source move forward. -/
theorem slots_onward (domain : Domain) (hs : InStep s) (a : Action) (kind : SlotKind) (source_id : String) (e g : ℕ)
    (h : s.db.core.slotAt kind source_id = some (e, g)) :
    ∃ e' g', (s.step domain a).db.core.slotAt kind source_id = some (e', g') ∧ (e < e' ∨ e = e' ∧ g ≤ g') := by
  rcases step_slots domain hs a with ⟨c, report, p, -, -, -, g₀, -, hat, hafter⟩ | ⟨-, hmoves⟩
  · rw [hafter]
    split_ifs with hsel
    · obtain ⟨rfl, rfl⟩ := hsel
      obtain ⟨rfl, rfl⟩ : p.epoch = e ∧ g₀ = g := by simpa using hat.symm.trans h
      exact ⟨_, _, rfl, Or.inr ⟨rfl, Nat.le_succ _⟩⟩
    · exact ⟨e, g, h, Or.inr ⟨rfl, le_rfl⟩⟩
  · cases hmoves kind source_id with
    | same heq => exact ⟨e, g, heq.trans h, Or.inr ⟨rfl, le_rfl⟩⟩
    | created hnone => cases hnone.symm.trans h
    | @epoch e₁ g₁ e₂ g₂ hbefore hafter hlt =>
      obtain ⟨rfl, rfl⟩ : e₁ = e ∧ g₁ = g := by simpa using hbefore.symm.trans h
      exact ⟨e₂, g₂, hafter, Or.inl hlt⟩

variable {db db' : SyncDb}

/-- The transactions that leave the authorities alone. -/
theorem transact_still {a : Action} (hk : db.core.Keyed) (hl : db.core.Lagging) (h : transact domain db a = .ok db')
    (hcreate : ∀ now ref url credential, a ≠ .createSource now ref url credential)
    (hmove : ∀ source_id authority g, a ≠ .moveAuthority source_id authority g) :
    Still db.core.Queued db.core db'.core := by
  cases a with
  | createSource now ref url credential => exact absurd rfl (hcreate now ref url credential)
  | moveAuthority source_id authority g => exact absurd rfl (hmove source_id authority g)
  | enqueue now kind source_id =>
    simp only [transact, enqueue_sync_operation] at h
    exact enqueue_still h fun s op_id hs => hl.queued (source_self hs) rfl rfl fun k e g _ hslot => by
      cases k <;> cases hslot
  | enqueueDefinitions now source_id =>
    simp only [transact, enqueue_metric_definition_poll] at h
    refine enqueue_still h fun s op_id hs => hl.queued (source_self hs) rfl rfl fun k e g hkind hslot => ?_
    obtain rfl := Option.some.inj hkind
    cases hslot
    exact ⟨rfl, Nat.succ_pos _⟩
  | enqueueCurrentState now source_id =>
    simp only [transact, enqueue_current_state_poll] at h
    refine enqueue_still h fun s op_id hs => hl.queued (source_self hs) rfl rfl fun k e g hkind hslot => ?_
    obtain rfl := Option.some.inj hkind
    cases hslot
    exact ⟨rfl, Nat.succ_pos _⟩
  | enqueueHistory now time_from time_till source_id =>
    simp only [transact, enqueue_history_sync] at h
    exact enqueue_still h fun s op_id hs => hl.queued (source_self hs) rfl rfl fun k e g hkind => by cases hkind
  | enqueueProblemState now source_id =>
    simp only [transact, enqueue_problem_state_sync] at h
    split at h
    · exact Except.ok.inj h ▸ .refl _
    · rename_i s hs
      have hsource := source_of_mem hk (List.mem_of_find?_eq_some hs) rfl
      exact insertOperation_still h fun op_id => hl.queued hsource rfl rfl fun k e g hkind => by cases hkind
  | projectHistory | projectHealth | reestablish | refreshBindings | claim | complete =>
    rw [transact_core h rfl]
    exact .refl _
  | requeue source_id op_id => exact Except.ok.inj h ▸ requeue_still source_id op_id db.core
  | recover cfg now slots => exact Except.ok.inj h ▸ recoveryPass_still cfg slots db.core
  | advanceEpoch source_id kind epoch generation =>
    rw [← Except.ok.inj h]
    have hops : (advanceEpoch source_id kind epoch generation db.core).operations =
        updateWhere (fun _ => false) id db.core.operations ++ [] := by
      rw [List.append_nil, updateWhere_of_none fun _ _ => rfl]
      rfl
    exact .of_updates hops rfl rfl .refl (fun s => by cases kind <;> rfl) (fun s => by cases kind <;> rfl) (by simp)

theorem claim_still {now : Timestamp} {w : Worker} {op_id token : String} {c : Option Claim}
    (h : claim domain now w op_id token db = .ok (c, db')) : Still db.core.Queued db.core db'.core := by
  rcases claim_cases h with ⟨_, rfl | rfl, rfl⟩ | ⟨c', -, -, h⟩
  · exact markRunning_still op_id token db.core
  · exact (markRunning_still op_id token db.core).trans (succeedEmpty_still op_id token _)
  · exact claim_problem_sync_still h

theorem claim_owned {now : Timestamp} {w : Worker} {op_id token : String} {c : Claim}
    (h : claim domain now w op_id token db = .ok (some c, db')) : OwnedIn db.core c := by
  cases w with
  | validation =>
    obtain ⟨x, hx, h⟩ := map_ok_iff.1 h
    obtain rfl : Claim.validation x.1 = c := Option.some.inj (Prod.mk.inj h).1
    unfold claim_initial_validation at hx
    split at hx
    · cases hx
    · rename_i o s g hclaimable
      obtain rfl := Except.ok.inj hx
      exact ⟨o, (claimable_some hclaimable).1.1, rfl, rfl⟩
  | inventory =>
    obtain ⟨x, hx, h⟩ := map_ok_iff.1 h
    obtain rfl : Claim.inventory x.1 = c := Option.some.inj (Prod.mk.inj h).1
    unfold claim_host_inventory at hx
    split at hx
    · cases hx
    · rename_i o s g hclaimable
      obtain rfl := Except.ok.inj hx
      exact ⟨o, (claimable_some hclaimable).1.1, rfl, rfl⟩
  | definitions =>
    obtain ⟨x, hx, h⟩ := map_ok_iff.1 h
    obtain rfl : Claim.definitions x.1 = c := Option.some.inj (Prod.mk.inj h).1
    unfold claim_metric_definitions at hx
    split at hx
    · cases hx
    · rename_i o s g hclaimable
      obtain rfl := Except.ok.inj hx
      exact ⟨o, (claimable_some hclaimable).1.1, rfl, rfl⟩
  | currentState =>
    obtain ⟨x, hx, h⟩ := map_ok_iff.1 h
    obtain rfl : Claim.currentState x.1 = c := Option.some.inj (Prod.mk.inj h).1
    unfold claim_metric_current_state at hx
    split at hx
    · cases hx
    · rename_i o s g hclaimable
      obtain rfl := Except.ok.inj hx
      exact ⟨o, (claimable_some hclaimable).1.1, rfl, rfl⟩
  | history =>
    obtain ⟨x, hx, h⟩ := map_ok_iff.1 h
    obtain ⟨c', hc', rfl⟩ := Option.map_eq_some_iff.1 (Prod.mk.inj h).1
    unfold claim_metric_history at hx
    split at hx
    · cases hx
    · rename_i o s g hclaimable
      dsimp only at hx
      split_ifs at hx
      · obtain rfl := Except.ok.inj hx
        cases hc'
      · split at hx
        · obtain rfl := Except.ok.inj hx
          obtain rfl := Option.some.inj hc'
          exact ⟨o, (claimable_some hclaimable).1.1, rfl, rfl⟩
        · obtain rfl := Except.ok.inj hx
          cases hc'
  | problemState =>
    obtain ⟨c', rfl, hsync⟩ := claim_problemState_some h
    obtain ⟨o, s, g, hclaimable, hadmits⟩ := claim_problem_sync_ok hsync
    obtain ⟨c₁, db₁, h₁, hsource, hgen, hconf, hscope, -⟩ := claim_problem_sync_runs now token hclaimable hadmits
    obtain ⟨rfl, -⟩ : c₁ = c' ∧ db₁ = db' := Prod.mk.inj (Except.ok.inj (h₁.symm.trans hsync))
    obtain ⟨⟨ho, -⟩, ⟨-, hid, -⟩, -⟩ := claimable_some hclaimable
    refine ⟨o, ho, (hsource.trans hid).symm, ?_⟩
    rw [OperationRow.position, ← hgen, ← hconf, ← hscope]
    rfl

/-- A completion moves no authority, and leaves none of its operations pending. -/
theorem complete_still {now : Timestamp} {c : Claim} {report : Report} (hl : db.core.Lagging)
    (howned : OwnedIn db.core c) (hstate : report.operation_state ≠ .pending)
    (h : complete domain now c report db = .ok db') : Still db.core.Queued db.core db'.core := by
  obtain ⟨r, hr, hsource, hposition⟩ := howned
  rcases complete_cases h with ⟨c', result, id, rfl, rfl, h⟩ | ⟨c', result, id, rfl, rfl, h⟩ |
    ⟨c', result, id, rfl, rfl, h⟩ | ⟨c', result, rfl, rfl, h⟩ | ⟨c', result, raw_rows, rfl, rfl, h⟩ |
    ⟨c', result, raw_rows, recoveries, rfl, rfl, h⟩
  · obtain ⟨-, -, e, -, -, rfl⟩ := complete_initial_validation_ok h
    have hsame : Still (fun _ => False) db.core { db.core with validations := db.core.validations ++ [e] } :=
      .of_append (List.append_nil _).symm rfl rfl (by simp)
    refine hsame.trans ?_
    dsimp only
    exact finish_still _ _ _ _ _ hstate (fun _ => rfl) (fun _ => rfl) fun _ => ⟨rfl, rfl⟩
  · obtain ⟨-, -, -, x, -, rfl⟩ := complete_host_inventory_ok h
    dsimp only
    exact finish_still _ _ _ _ _ hstate (fun _ => rfl) (fun _ => rfl) fun _ => ⟨rfl, rfl⟩
  · obtain ⟨-, -, -, x, -, rfl⟩ := complete_metric_definitions_ok h
    dsimp only
    refine finish_still _ _ _ _ _ ?_ (fun _ => rfl) (fun _ => rfl) fun _ => ⟨rfl, rfl⟩
    unfold effective
    split_ifs
    · exact nofun
    · exact hstate
  · obtain ⟨-, x, -, rfl⟩ := complete_metric_current_state_ok h
    dsimp only
    exact finish_still _ _ _ _ _ hstate (fun _ => rfl) (fun _ => rfl) fun _ => ⟨rfl, rfl⟩
  · obtain ⟨-, x, -, hchain⟩ := complete_metric_history_ok h
    have hfinish : Still (fun _ => False) db.core (db.core.finish now c'.toSyncClaim result.toSyncResult
        (result.failure_class.map MetricHistoryFailureClass.value) "metric_history" (fun s => s) (fun o => o)) :=
      finish_still _ _ _ _ _ hstate (fun _ => rfl) (fun _ => rfl) fun _ => ⟨rfl, rfl⟩
    refine hfinish.trans (chainHistory_still hchain fun o hkind htoken ho hpos => ?_)
    exact hl.chained hr (ho.trans hsource.symm) (hpos.trans hposition.symm) htoken (by rw [hkind]; rfl)
  · refine complete_problem_sync_still h fun o hkind htoken ho hpos => ?_
    exact hl.chained hr (ho.trans hsource.symm) (hpos.trans hposition.symm) htoken (by rw [hkind]; rfl)

/-- What a step does to operations and authorities. -/
theorem step_carried (domain : Domain) (hs : Standing s) {a : Action} (hok : Forward s a) :
    Carried s.db.core (s.step domain a).db.core := by
  have hslots := slots_onward domain hs.inStep a
  rcases step_cases domain s a with h | ⟨db, ht, h⟩ | ⟨now, w, op_id, token, c, db, -, hc, h⟩ |
    ⟨now, n, report, c, db, rfl, hn, hc, h⟩ <;> rw [h] at hslots ⊢
  · exact (Still.refl _).carried hs.lagging hslots
  · by_cases hcreate : ∃ now ref url credential, a = .createSource now ref url credential
    · obtain ⟨now, ref, url, credential, rfl⟩ := hcreate
      exact insertZabbixSource_carried hs.lagging ht
    by_cases hmove : ∃ source_id authority g, a = .moveAuthority source_id authority g
    · obtain ⟨source_id, authority, g, rfl⟩ := hmove
      obtain rfl := Except.ok.inj ht
      exact moveAuthority_carried hs.lagging hok
    · refine (transact_still hs.inStep.keyed hs.lagging ht ?_ ?_).carried hs.lagging hslots
      · exact fun now ref url credential ha => hcreate ⟨now, ref, url, credential, ha⟩
      · exact fun source_id authority g ha => hmove ⟨source_id, authority, g, ha⟩
  · exact (claim_still hc).carried hs.lagging hslots
  · have howned := hs.owned c (List.mem_of_getElem? hn)
    exact (complete_still hs.lagging howned hok hc).carried hs.lagging hslots

theorem OwnedIn.carried {c c' : CoreTables} {claim : Claim} (howned : OwnedIn c claim) (h : Carried c c') :
    OwnedIn c' claim := by
  obtain ⟨o, ho, hsource, hposition⟩ := howned
  obtain ⟨o', ho', hkeeps⟩ := h.operations.mem ho
  exact ⟨o', ho', hkeeps.source_eq.trans hsource, hkeeps.position_eq.trans hposition⟩

/-- A step keeps the invariant. -/
theorem Standing.step {s : System} (hs : Standing s) {a : Action} (hok : Forward s a) : Standing (s.step domain a) := by
  have hcarried := step_carried domain hs hok
  refine ⟨hs.inStep.step a, hs.lagging.carried hcarried, fun c hc => ?_⟩
  rcases step_cases domain s a with h | ⟨db, -, h⟩ | ⟨now, w, op_id, token, c', db, -, hclaim, h⟩ |
    ⟨now, n, report, c', db, -, -, -, h⟩ <;> rw [h] at hc hcarried ⊢
  · exact OwnedIn.carried (hs.owned c hc) hcarried
  · exact OwnedIn.carried (hs.owned c hc) hcarried
  · rcases List.mem_append.1 hc with hold | hnew
    · exact OwnedIn.carried (hs.owned c hold) hcarried
    · obtain rfl := Option.mem_toList.1 hnew
      exact OwnedIn.carried (claim_owned hclaim) hcarried
  · exact OwnedIn.carried (hs.owned c hc) hcarried

theorem standing_empty (domain : Domain) (bridge : BridgeVersion) : Standing (.empty bridge) where
  inStep := show InStep (System.exec domain bridge []) from inStep_exec bridge []
  lagging := by
    have hnone : ∀ o, o ∉ (System.empty bridge).db.core.operations := fun _ => List.not_mem_nil
    refine ⟨fun o ho => absurd ho (hnone o), fun o ho => absurd ho (hnone o), fun o ho => absurd ho (hnone o), ?_⟩
    intro source_id p hp
    have hsource : (System.empty bridge).db.core.positionAt source_id = none := rfl
    rw [hsource] at hp
    cases hp
  owned := fun _ hc => absurd hc List.not_mem_nil

theorem Standing.run (hs : Standing s) {run : List Action} (hrun : Guarded (System.step domain) Forward s run) :
    Standing (run.foldl (System.step domain) s) :=
  hrun.invariant (fun _ _ hs hok => hs.step hok) hs

/-- **Key result**: in every run whose authorities move forward, no operation is ahead of its source, the generation of
each is there, and none is pending with a token. -/
theorem lagging_exec (domain : Domain) (bridge : BridgeVersion) (run : List Action)
    (hrun : Guarded (System.step domain) Forward (.empty bridge) run) : Standing (System.exec domain bridge run) :=
  (standing_empty domain bridge).run hrun

theorem mem_run (hs : Standing s) {o : OperationRow} (ho : o ∈ s.db.core.operations) {run : List Action}
    (hrun : Guarded (System.step domain) Forward s run) :
    ∃ o' ∈ (run.foldl (System.step domain) s).db.core.operations, o'.snapshot = o.snapshot := by
  induction run generalizing s o with
  | nil => exact ⟨o, ho, rfl⟩
  | cons a run ih =>
    obtain ⟨o₁, ho₁, hkeeps⟩ := (step_carried domain hs hrun.1).operations.mem ho
    obtain ⟨o', ho', hsame⟩ := ih (hs.step hrun.1) ho₁ hrun.2
    exact ⟨o', ho', hsame.trans hkeeps.1⟩

/-- **Key result**: an operation that its fence rejects is rejected in every state that follows. -/
theorem not_admitted_run (hs : Standing s) {o : OperationRow} (ho : o ∈ s.db.core.operations)
    (hnot : ¬s.db.core.Admitted o.snapshot) {run : List Action} (hrun : Guarded (System.step domain) Forward s run) :
    ¬(run.foldl (System.step domain) s).db.core.Admitted o.snapshot := by
  induction run generalizing s o with
  | nil => exact hnot
  | cons a run ih =>
    have hcarried := step_carried domain hs hrun.1
    obtain ⟨o', ho', hkeeps⟩ := hcarried.operations.mem ho
    have hnot' := not_admitted_onward (hs.lagging.behind o ho) (hs.lagging.named o ho) hcarried.onward hnot
    have hlater := ih (hs.step hrun.1) ho' (by rwa [hkeeps.1]) hrun.2
    rwa [hkeeps.1] at hlater

end Sync

end JLMirror.Monitoring
