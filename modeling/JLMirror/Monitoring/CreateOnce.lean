import Mathlib
import JLMirror.Monitoring.SourceCreation

/-!
# A source is created once

What the requests of `JLMirror.Monitoring.SourceCreation` under one key create, and what they are answered.

## What is proved

* `next_inv`: the committed tables are the rows of the requests that created, and no two of these have one key.
* **Key result** (`creation_idempotent`): in every state of a run, the requests of a key have created one source at
  most, with its generation, its binding and its first operation; all who have a response have the same ids; who asks
  for something else is told that the key is reused; and who has no response has no row.
* `raced_once`: two requests that race for a key.

## Honest scope

The texts of the requests of a run do not collide under SHA-256.
-/

namespace JLMirror.Monitoring.SourceCreation

open JLMirror.Foundations

/-! ### The law -/

section Law

variable (s : SourceCreations)

/-- A request that created its source. -/
def createdBy (p : Creation × Except CreateError SourceResponse) : Option Creation :=
  match p.2 with
  | .ok response => if response.reused then none else some p.1
  | .error _ => none

/-- The requests that created their source, in order. -/
def SourceCreations.created : List Creation := s.replies.filterMap createdBy

/-- The requests under a key. -/
def SourceCreations.under (key : String × String) : List Creation := s.asked.filter fun c => c.request.key = key

/-- The rows of the requests under a key are one source, one generation, one binding and one operation at most. -/
structure One (key : String × String) : Prop where
  sources : s.tx.db.sources.countP (fun r => (s.under key).any fun c => r.monitoring_source_id = c.source_id) ≤ 1
  generations : s.tx.db.generations.countP (fun r => (s.under key).any fun c =>
    r.source_instance_generation = c.generation) ≤ 1
  bindings : s.tx.db.sources.countP (fun r => (s.under key).any fun c =>
    r.provider_scope_tenant_binding_id = c.binding_id) ≤ 1
  operations : s.tx.db.operations.countP (fun r => (s.under key).any fun c =>
    r.monitoring_sync_operation_id = c.operation_id) ≤ 1

/-- The rows that a response names are there. -/
structure Whole (tenant_id : String) (response : SourceResponse) : Prop where
  source : ∃ r ∈ s.tx.db.sources, r.tenant_id = tenant_id ∧ r.monitoring_source_id = response.monitoring_source_id ∧
    r.last_sync_operation_id = response.monitoring_sync_operation_id ∧
      ∃ g ∈ s.tx.db.generations, g.tenant_id = tenant_id ∧ g.monitoring_source_id = r.monitoring_source_id ∧
        g.source_instance_generation = r.active_source_instance_generation
  operation : ∃ o ∈ s.tx.db.operations, o.tenant_id = tenant_id ∧
    o.monitoring_sync_operation_id = response.monitoring_sync_operation_id ∧
    o.monitoring_source_id = response.monitoring_source_id

/-- A request has no row. -/
structure Absent (c : Creation) : Prop where
  idempotency : ∀ r ∈ s.tx.db.idempotency, r.monitoring_source_id ≠ c.source_id
  generations : ∀ r ∈ s.tx.db.generations, r.source_instance_generation ≠ c.generation
  operations : ∀ r ∈ s.tx.db.operations, r.monitoring_sync_operation_id ≠ c.operation_id
  sources : ∀ r ∈ s.tx.db.sources, r.monitoring_source_id ≠ c.source_id
  audit : ∀ e ∈ s.tx.db.audit, e.subject_id ≠ c.source_id

/-- A content that the tables take. -/
def SourceContent.Admissible (c : SourceContent) : Prop :=
  c.provider_instance_ref ≠ "" ∧ c.display_name ≠ "" ∧ c.credential_binding_ref ≠ ""

/-- What a request is answered: it has created its source; or another one under its key has, and it is answered with
that source if it asks for the same, else that the key is reused; or the tables do not take it; or it was interrupted. -/
def Answered (c : Creation) (answer : Except CreateError SourceResponse) : Prop :=
  answer = .ok (c.response false) ∨
    (∃ d ∈ s.created, d.request.key = c.request.key ∧ answer =
      if d.request.content.Same c.request.content then .ok (d.response true) else .error .key_reused) ∨
    (answer = .error .check ∧ ¬c.request.content.Admissible) ∨ answer = .error .interrupted

/-- What is claimed of a state. -/
structure Idempotent : Prop where
  one : ∀ key, One s key
  whole : ∀ c response, (c, .ok response) ∈ s.replies → Whole s c.request.tenant_id response
  same : ∀ c response d response', (c, .ok response) ∈ s.replies → (d, .ok response') ∈ s.replies →
    c.request.key = d.request.key → response.monitoring_source_id = response'.monitoring_source_id ∧
      response.monitoring_sync_operation_id = response'.monitoring_sync_operation_id ∧
      c.request.content.Same d.request.content
  answered : ∀ p ∈ s.replies, Answered s p.1 p.2
  absent : ∀ c e, (c, .error e) ∈ s.replies → Absent s c

end Law

/-! ### Numbers -/

theorem opaqueId_inj {kind : String} {m n : ℕ} (h : opaqueId kind m = opaqueId kind n) : m = n := by
  simpa [opaqueId] using h

/-- The number of a request is its own, and what has been answered is not worked on. -/
structure Numbered (s : SourceCreations) : Prop where
  drawn : ∀ c ∈ s.asked, c.number < s.nextId
  numbers : (s.asked.map Creation.number).Nodup
  replied : ∀ p ∈ s.replies, p.1 ∈ s.asked
  once : (s.replies.map fun p => p.1.number).Nodup
  asked : ∀ w c, (s.pc w).creation = some c → c ∈ s.asked
  pending : ∀ w c, (s.pc w).creation = some c → ∀ p ∈ s.replies, p.1.number ≠ c.number
  apart : ∀ v w c d, (s.pc v).creation = some c → (s.pc w).creation = some d → v ≠ w → c.number ≠ d.number

section Numbers

variable {s s' : SourceCreations} {w : ℕ} {p : Point} {c : Creation} {answer : Except CreateError SourceResponse}

/-- A session that goes on. -/
theorem Numbered.resume (h : Numbered s) (hpc : s'.pc = Function.update s.pc w p)
    (hp : p.creation = (s.pc w).creation) (hasked : s'.asked = s.asked) (hreplies : s'.replies = s.replies)
    (hnext : s'.nextId = s.nextId) : Numbered s' := by
  have hcreation : ∀ v, (s'.pc v).creation = (s.pc v).creation := fun v => by
    rw [hpc]
    by_cases hv : v = w
    · subst hv
      rw [Function.update_self, hp]
    · rw [Function.update_of_ne hv]
  constructor
  · rw [hasked, hnext]
    exact h.drawn
  · rw [hasked]
    exact h.numbers
  · rw [hasked, hreplies]
    exact h.replied
  · rw [hreplies]
    exact h.once
  · intro v c
    rw [hcreation, hasked]
    exact h.asked v c
  · intro v c
    rw [hcreation, hreplies]
    exact h.pending v c
  · intro v v' c d
    rw [hcreation, hcreation]
    exact h.apart v v' c d

/-- A session that answers its request. -/
theorem Numbered.finish (h : Numbered s) (hc : (s.pc w).creation = some c)
    (hpc : s'.pc = Function.update s.pc w .idle) (hasked : s'.asked = s.asked)
    (hreplies : s'.replies = s.replies ++ [(c, answer)]) (hnext : s'.nextId = s.nextId) : Numbered s' := by
  have hcreation : ∀ v d, (s'.pc v).creation = some d → v ≠ w ∧ (s.pc v).creation = some d := fun v d hd => by
    rw [hpc] at hd
    by_cases hv : v = w
    · subst hv
      rw [Function.update_self] at hd
      cases hd
    · rw [Function.update_of_ne hv] at hd
      exact ⟨hv, hd⟩
  constructor
  · rw [hasked, hnext]
    exact h.drawn
  · rw [hasked]
    exact h.numbers
  · rw [hasked, hreplies]
    exact List.forall_mem_append.2 ⟨h.replied, List.forall_mem_singleton.2 (h.asked w c hc)⟩
  · rw [hreplies, List.map_append]
    refine List.Nodup.append h.once (List.nodup_singleton _) (List.disjoint_singleton.2 fun hmem => ?_)
    obtain ⟨q, hq, hnumber⟩ := List.mem_map.1 hmem
    exact h.pending w c hc q hq hnumber
  · intro v d hd
    rw [hasked]
    exact h.asked v d (hcreation v d hd).2
  · intro v d hd
    obtain ⟨hv, hd⟩ := hcreation v d hd
    rw [hreplies]
    exact List.forall_mem_append.2 ⟨h.pending v d hd, List.forall_mem_singleton.2 (h.apart w v c d hc hd hv.symm)⟩
  · intro v v' d d' hd hd'
    exact h.apart v v' d d' (hcreation v d hd).2 (hcreation v' d' hd').2

/-- A request that comes in. -/
theorem Numbered.request (h : Numbered s) (hnumber : c.number = s.nextId) (hp : p.creation = some c)
    (hpc : s'.pc = Function.update s.pc w p) (hasked : s'.asked = s.asked ++ [c]) (hreplies : s'.replies = s.replies)
    (hnext : s'.nextId = s.nextId + 4) : Numbered s' := by
  have hcreation : ∀ v d, (s'.pc v).creation = some d →
      (v = w ∧ d = c) ∨ v ≠ w ∧ (s.pc v).creation = some d := fun v d hd => by
    rw [hpc] at hd
    by_cases hv : v = w
    · subst hv
      rw [Function.update_self, hp] at hd
      exact Or.inl ⟨rfl, (Option.some.inj hd).symm⟩
    · rw [Function.update_of_ne hv] at hd
      exact Or.inr ⟨hv, hd⟩
  have hnew : ∀ d ∈ s.asked, d.number ≠ c.number := fun d hd => by
    rw [hnumber]
    exact (h.drawn d hd).ne
  constructor
  · rw [hasked, hnext]
    refine List.forall_mem_append.2 ⟨fun d hd => (h.drawn d hd).trans (by omega), List.forall_mem_singleton.2 ?_⟩
    omega
  · rw [hasked, List.map_append]
    refine List.Nodup.append h.numbers (List.nodup_singleton _) (List.disjoint_singleton.2 fun hmem => ?_)
    obtain ⟨d, hd, heq⟩ := List.mem_map.1 hmem
    exact hnew d hd heq
  · rw [hasked, hreplies]
    exact fun q hq => List.mem_append_left _ (h.replied q hq)
  · rw [hreplies]
    exact h.once
  · intro v d hd
    rw [hasked]
    rcases hcreation v d hd with ⟨-, rfl⟩ | ⟨-, hd⟩
    · exact List.mem_append_right _ List.mem_cons_self
    · exact List.mem_append_left _ (h.asked v d hd)
  · intro v d hd
    rw [hreplies]
    rcases hcreation v d hd with ⟨-, rfl⟩ | ⟨-, hd⟩
    · exact fun q hq => hnew _ (h.replied q hq)
    · exact h.pending v d hd
  · intro v v' d d' hd hd' hne
    rcases hcreation v d hd with ⟨rfl, rfl⟩ | ⟨-, hd⟩ <;> rcases hcreation v' d' hd' with ⟨rfl, rfl⟩ | ⟨-, hd'⟩
    · exact absurd rfl hne
    · exact (hnew d' (h.asked v' d' hd')).symm
    · exact hnew d (h.asked v d hd)
    · exact h.apart v v' d d' hd hd' hne

theorem Numbered.eq_of_number (h : Numbered s) {d : Creation} (hc : c ∈ s.asked) (hd : d ∈ s.asked)
    (hnumber : c.number = d.number) : c = d := eq_of_key h.numbers hc hd hnumber

end Numbers

/-! ### Sessions -/

/-- What a session has written. -/
def Point.written (sha256 : String → String) : Point → List Write
  | .idle | .insertKey _ | .select _ => []
  | .compare c _ => [.lock c.request.key]
  | .insertGeneration c => [.reserve (c.idempotencyRow sha256 .in_progress)]
  | .insertOperation c => [.reserve (c.idempotencyRow sha256 .in_progress), .generation c.generationRow]
  | .insertSource c =>
    [.reserve (c.idempotencyRow sha256 .in_progress), .generation c.generationRow, .operation c.operationRow]
  | .updateKey c =>
    [.reserve (c.idempotencyRow sha256 .in_progress), .generation c.generationRow, .operation c.operationRow,
      .source c.sourceRow]
  | .insertAudit c =>
    [.reserve (c.idempotencyRow sha256 .in_progress), .generation c.generationRow, .operation c.operationRow,
      .source c.sourceRow, .completed c.request.key]
  | .commit c =>
    [.reserve (c.idempotencyRow sha256 .in_progress), .generation c.generationRow, .operation c.operationRow,
      .source c.sourceRow, .completed c.request.key] ++ (c.auditEvent.map .audit).toList

/-- The rows of the requests that created. -/
def tablesOf (sha256 : String → String) (created : List Creation) : SourceTables where
  idempotency := created.map fun c => c.idempotencyRow sha256 .completed
  generations := created.map Creation.generationRow
  operations := created.map Creation.operationRow
  sources := created.map Creation.sourceRow
  audit := created.filterMap Creation.auditEvent

theorem tablesOf_keys (sha256 : String → String) (created : List Creation) :
    (tablesOf sha256 created).keys = created.map fun c => c.request.key := List.map_map

/-- A request under a new key that commits adds its rows. -/
theorem commit_view (sha256 : String → String) {created : List Creation} {c : Creation}
    (hnew : c.request.key ∉ created.map fun c => c.request.key) :
    ((Point.commit c).written sha256).foldl (fun db x => x.apply db) (tablesOf sha256 created) =
      tablesOf sha256 (created ++ [c]) := by
  have hupdate : updateWhere (fun r : IdempotencyRow => r.key = c.request.key) IdempotencyRow.complete
      ((created.map fun c => c.idempotencyRow sha256 .completed) ++ [c.idempotencyRow sha256 .in_progress]) =
        (created ++ [c]).map fun c => c.idempotencyRow sha256 .completed := by
    rw [updateWhere_append, updateWhere_of_none, List.map_append]
    · simp [updateWhere, IdempotencyRow.complete, Creation.idempotencyRow, IdempotencyRow.key, CreateRequest.key]
    · intro r hr
      obtain ⟨d, hd, rfl⟩ := List.mem_map.1 hr
      exact decide_eq_false fun heq => hnew (List.mem_map.2 ⟨d, hd, heq⟩)
  simp only [Point.written, List.foldl_append, List.foldl_cons, List.foldl_nil, Write.apply]
  rw [tablesOf, hupdate]
  cases haudit : c.auditEvent with
  | none => simp [tablesOf, haudit]
  | some event => simp [tablesOf, haudit]

/-- What holds of a session, by the point it is at. -/
structure PointInv (sha256 : String → String) (db : SourceTables) (ws : List Write) (p : Point) : Prop where
  written : ws = p.written sha256
  reserved : ∀ c, p = .select c → c.request.key ∈ db.keys
  found : ∀ c row, p = .compare c row → row ∈ db.idempotency ∧ row.key = c.request.key

theorem PointInv.of_written {sha256 : String → String} {db : SourceTables} {ws : List Write} {p : Point}
    (hwritten : ws = p.written sha256) (hselect : ∀ c, p ≠ .select c) (hcompare : ∀ c row, p ≠ .compare c row) :
    PointInv sha256 db ws p :=
  ⟨hwritten, fun c h => absurd h (hselect c), fun c row h => absurd h (hcompare c row)⟩

theorem pointInv_idle (sha256 : String → String) (db : SourceTables) : PointInv sha256 db [] .idle :=
  .of_written rfl (fun _ => by simp) fun _ _ => by simp

/-- An answer, by the requests that created and the fingerprints. -/
def AnsweredBy (sha256 : String → String) (created : List Creation)
    (p : Creation × Except CreateError SourceResponse) : Prop :=
  p.2 = .ok (p.1.response false) ∨
    (∃ d ∈ created, d.request.key = p.1.request.key ∧ p.2 =
      if d.fingerprint sha256 = p.1.fingerprint sha256 then .ok (d.response true) else .error .key_reused) ∨
    (p.2 = .error .check ∧ ¬p.1.request.content.Admissible) ∨ p.2 = .error .interrupted

theorem AnsweredBy.mono {sha256 : String → String} {created created' : List Creation}
    {p : Creation × Except CreateError SourceResponse} (hsub : created ⊆ created') (h : AnsweredBy sha256 created p) :
    AnsweredBy sha256 created' p :=
  h.imp_right (Or.imp_left fun ⟨d, hd, hkey, heq⟩ => ⟨d, hsub hd, hkey, heq⟩)

/-- The committed tables are the rows of the requests that created, whose keys are distinct, and every request was
answered by what they created. -/
structure CreationInv (sha256 : String → String) (s : SourceCreations) : Prop where
  sessions : Sessions.Inv (fun _ => True) (PointInv sha256) s.toSessions
  tables : s.tx.db = tablesOf sha256 s.created
  unique : s.tx.Unique SourceTables.keys Write.reserved
  numbered : Numbered s
  answers : ∀ p ∈ s.replies, AnsweredBy sha256 s.created p

section Steps

variable {sha256 : String → String} {s : SourceCreations} {w : ℕ} {c : Creation} {p : Point} {x : Write}

theorem creationInv_empty : CreationInv sha256 .empty where
  sessions := Sessions.inv_init trivial (pointInv_idle _ _)
  tables := rfl
  unique := List.nodup_nil
  numbered := by constructor <;> simp [SourceCreations.empty, Sessions.init, Point.creation]
  answers := fun p h => absurd h List.not_mem_nil

theorem CreationInv.view_eq (h : CreationInv sha256 s) (hpc : (s.pc w).written sha256 = []) : s.view w = s.tx.db := by
  rw [SourceCreations.view, Sessions.view_eq, (h.sessions.sessions w).written, hpc]
  rfl

theorem CreationInv.goto (h : CreationInv sha256 s) (hp : p.creation = (s.pc w).creation)
    (hpoint : PointInv sha256 s.tx.db (s.tx.writes w) p) : CreationInv sha256 (s.goto w p) where
  sessions := Sessions.inv_goto h.sessions hpoint
  tables := h.tables
  unique := h.unique
  numbered := h.numbered.resume rfl hp rfl rfl rfl
  answers := h.answers

theorem row_of_reserved (x y : Write) (k : String × String) (hx : x.reserved = some k) (hy : y.reserved = some k) :
    x.row = y.row := by
  cases x <;> cases y <;> simp_all [Write.reserved, Write.row]

theorem CreationInv.write (h : CreationInv sha256 s) (hp : p.creation = (s.pc w).creation)
    (hpoint : PointInv sha256 s.tx.db (s.tx.writes w ++ [x]) p)
    (hnew : ∀ k, x.reserved = some k → k ∉ (s.view w).keys) : CreationInv sha256 (s.write w x p) := by
  have hdb : (s.write w x p).tx.db = s.tx.db := by
    unfold SourceCreations.write Sessions.write
    split_ifs <;> rfl
  refine ⟨Sessions.inv_write h.sessions hpoint, hdb.trans h.tables,
    Sessions.unique_write keys_apply row_of_reserved h.unique hnew, ?_, h.answers⟩
  unfold SourceCreations.write Sessions.write
  split_ifs
  · exact ⟨h.numbered.drawn, h.numbered.numbers, h.numbered.replied, h.numbered.once, h.numbered.asked,
      h.numbered.pending, h.numbered.apart⟩
  · exact h.numbered.resume rfl hp rfl rfl rfl

/-- A write that reserves no key, before a point that is neither the lookup nor the comparison. -/
theorem CreationInv.insert (h : CreationInv sha256 s) (hp : p.creation = (s.pc w).creation)
    (hwritten : p.written sha256 = (s.pc w).written sha256 ++ [x]) (hx : x.reserved = none)
    (hselect : ∀ c, p ≠ .select c) (hcompare : ∀ c row, p ≠ .compare c row) : CreationInv sha256 (s.write w x p) := by
  refine h.write hp ?_ fun k hk => by cases hx.symm.trans hk
  exact .of_written (by rw [(h.sessions.sessions w).written, hwritten]) hselect hcompare

theorem CreationInv.refuse (h : CreationInv sha256 s) (hc : (s.pc w).creation = some c) {e : CreateError}
    (hanswer : AnsweredBy sha256 s.created (c, .error e)) : CreationInv sha256 (s.refuse w c e) := by
  have hcreated : (s.refuse w c e).created = s.created := by
    simp [SourceCreations.created, SourceCreations.refuse, createdBy]
  refine ⟨Sessions.inv_rollback h.sessions (pointInv_idle _ _), h.tables.trans (by rw [hcreated]), h.unique.rollback,
    h.numbered.finish hc rfl rfl rfl rfl, ?_⟩
  rw [hcreated]
  exact List.forall_mem_append.2 ⟨h.answers, List.forall_mem_singleton.2 hanswer⟩

/-- A request that is answered with a response. -/
theorem CreationInv.respond (h : CreationInv sha256 s) (hc : (s.pc w).creation = some c) {response : SourceResponse}
    {created : List Creation} (hcreated : (createdBy (c, .ok response)).toList = created)
    (hview : s.view w = tablesOf sha256 (s.created ++ created))
    (hanswer : AnsweredBy sha256 (s.created ++ created) (c, .ok response)) : CreationInv sha256 (s.respond w c response) := by
  have hall : (s.respond w c response).created = s.created ++ created := by
    rw [← hcreated, SourceCreations.created, SourceCreations.respond, List.filterMap_append]
    cases hresponse : createdBy (c, .ok response) <;> simp [hresponse, SourceCreations.created]
  refine ⟨Sessions.inv_commit h.sessions trivial (pointInv_idle _ _) fun ws p hp => ?_, ?_, h.unique.commit keys_apply,
    h.numbered.finish hc rfl rfl rfl rfl, ?_⟩
  · -- the others stand new rows
    have hdb : Sessions.view Write.apply s.toSessions w = tablesOf sha256 (s.created ++ created) := hview
    rw [hdb]
    refine ⟨hp.written, fun d hd => ?_, fun d row hd => ?_⟩
    · have hkey := hp.reserved d hd
      rw [h.tables, tablesOf_keys] at hkey
      rw [tablesOf_keys, List.map_append]
      exact List.mem_append_left _ hkey
    · obtain ⟨hrow, hkey⟩ := hp.found d row hd
      rw [h.tables] at hrow
      refine ⟨?_, hkey⟩
      rw [tablesOf, List.map_append]
      exact List.mem_append_left _ hrow
  · rw [hall]
    exact hview
  · rw [hall]
    refine List.forall_mem_append.2 ⟨fun q hq => ?_, List.forall_mem_singleton.2 hanswer⟩
    exact (h.answers q hq).mono (List.subset_append_left _ _)

theorem CreationInv.row_mem (h : CreationInv sha256 s) {row : IdempotencyRow} (hrow : row ∈ s.tx.db.idempotency) :
    ∃ d ∈ s.created, row = d.idempotencyRow sha256 .completed := by
  rw [h.tables] at hrow
  obtain ⟨d, hd, rfl⟩ := List.mem_map.1 hrow
  exact ⟨d, hd, rfl⟩

/-- **Key lemma**: a statement keeps the invariant. -/
theorem next_inv (h : CreationInv sha256 s) (w : ℕ) : CreationInv sha256 (s.next sha256 w) := by
  have hwritten := (h.sessions.sessions w).written
  unfold SourceCreations.next
  cases hpc : s.pc w with
  | idle => exact h
  | insertKey c =>
    dsimp only
    have hview := h.view_eq (w := w) (by rw [hpc]; rfl)
    split_ifs with hkey
    · refine h.goto (by rw [hpc]; rfl) ⟨by rw [hwritten, hpc]; rfl, fun d hd => ?_, fun _ _ hd => (by cases hd)⟩
      obtain rfl := Point.select.inj hd
      exact hview ▸ hkey
    · refine h.write (by rw [hpc]; rfl) ?_ fun k hk => ?_
      · exact .of_written (by rw [hwritten, hpc]; rfl) (fun _ => by simp) fun _ _ => by simp
      · obtain rfl := Option.some.inj hk
        exact hkey
  | select c =>
    dsimp only
    have hview := h.view_eq (w := w) (by rw [hpc]; rfl)
    have hkey := (h.sessions.sessions w).reserved c hpc
    split
    · rename_i hnone
      obtain ⟨row, hrow, hkey⟩ := List.mem_map.1 hkey
      rw [hview] at hnone
      exact absurd (decide_eq_true hkey) (List.find?_eq_none.1 hnone row hrow)
    · rename_i row hsome
      refine h.write (by rw [hpc]; rfl) ?_ fun k hk => by cases hk
      rw [hwritten, hpc]
      refine ⟨rfl, fun _ hd => (by cases hd), fun d row' hd => ?_⟩
      obtain ⟨rfl, rfl⟩ := Point.compare.inj hd
      rw [hview] at hsome
      have hfound := List.find?_some hsome
      exact ⟨List.mem_of_find?_eq_some hsome, by simpa using hfound⟩
  | compare c row =>
    dsimp only
    obtain ⟨hrow, hkey⟩ := (h.sessions.sessions w).found c row hpc
    obtain ⟨d, hd, rfl⟩ := h.row_mem hrow
    split_ifs with hne
    · exact h.refuse (by rw [hpc]; rfl) (Or.inr (Or.inl ⟨d, hd, hkey, (if_neg hne).symm⟩))
    · have hview : s.view w = s.tx.db := by
        rw [SourceCreations.view, Sessions.view_eq, hwritten, hpc]
        rfl
      refine h.respond (by rw [hpc]; rfl) (show _ = [] from rfl) ?_ (Or.inr (Or.inl ⟨d, ?_, hkey, ?_⟩))
      · rw [hview, h.tables, List.append_nil]
      · exact List.mem_append_left _ hd
      · exact (if_pos (not_not.1 hne)).symm
  | insertGeneration c =>
    dsimp only
    split_ifs with hempty
    · exact h.refuse (by rw [hpc]; rfl) (Or.inr (Or.inr (Or.inl ⟨rfl, fun hok => hok.1 hempty⟩)))
    · exact h.insert (by rw [hpc]; rfl) (by rw [hpc]; rfl) rfl (fun _ => by simp) fun _ _ => by simp
  | insertOperation c => exact h.insert (by rw [hpc]; rfl) (by rw [hpc]; rfl) rfl (fun _ => by simp) fun _ _ => by simp
  | insertSource c =>
    dsimp only
    split_ifs with hempty
    · refine h.refuse (by rw [hpc]; rfl) (Or.inr (Or.inr (Or.inl ⟨rfl, fun hok => ?_⟩)))
      exact hempty.elim hok.2.1 hok.2.2
    · exact h.insert (by rw [hpc]; rfl) (by rw [hpc]; rfl) rfl (fun _ => by simp) fun _ _ => by simp
  | updateKey c => exact h.insert (by rw [hpc]; rfl) (by rw [hpc]; rfl) rfl (fun _ => by simp) fun _ _ => by simp
  | insertAudit c =>
    dsimp only
    split
    · rename_i hnone
      refine h.goto (by rw [hpc]; rfl) ?_
      exact .of_written (by rw [hwritten, hpc]; simp [Point.written, hnone]) (fun _ => by simp) fun _ _ => by simp
    · rename_i event hsome
      exact h.insert (by rw [hpc]; rfl) (by rw [hpc]; simp [Point.written, hsome]) rfl (fun _ => by simp)
        fun _ _ => by simp
  | commit c =>
    dsimp only
    have hnew : c.request.key ∉ s.created.map fun c => c.request.key := by
      rw [← tablesOf_keys sha256, ← h.tables]
      have hmem : Write.reserve (c.idempotencyRow sha256 .in_progress) ∈ s.tx.writes w := by
        rw [hwritten, hpc]
        exact List.mem_cons_self
      exact h.unique.not_mem (WriteLog.mem_writes.1 hmem) rfl
    refine h.respond (by rw [hpc]; rfl) (show _ = [c] from rfl) ?_ (Or.inl rfl)
    rw [SourceCreations.view, Sessions.view_eq, hwritten, hpc, h.tables]
    exact commit_view sha256 hnew

/-- A step keeps the invariant. -/
theorem step_inv (h : CreationInv sha256 s) (a : Act) : CreationInv sha256 (s.step sha256 a) := by
  cases a with
  | create_zabbix_source w now request =>
    simp only [SourceCreations.step]
    split
    · rename_i hpc
      have hpoint : PointInv sha256 s.tx.db (s.tx.writes w) (.insertKey ⟨s.nextId, now, request⟩) :=
        .of_written (by rw [(h.sessions.sessions w).written, hpc]; rfl) (fun _ => by simp) fun _ _ => by simp
      exact ⟨Sessions.inv_goto h.sessions hpoint, h.tables, h.unique, h.numbered.request rfl rfl rfl rfl rfl rfl, h.answers⟩
    · exact h
  | next w => exact next_inv h w
  | fail w =>
    simp only [SourceCreations.step]
    split
    · exact h
    · rename_i c hc
      exact h.refuse hc (Or.inr (Or.inr (Or.inr rfl)))

theorem creationInv_exec (sha256 : String → String) (run : List Act) : CreationInv sha256 (.exec sha256 run) := by
  induction run using List.reverseRecOn with
  | nil => exact creationInv_empty
  | append_singleton run a ih =>
    rw [SourceCreations.exec, List.foldl_append]
    exact step_inv ih a

end Steps

/-! ### What the invariant says -/

section Conclusion

variable {sha256 : String → String} {s : SourceCreations}

theorem mem_created {c : Creation} : c ∈ s.created ↔ ∃ response, (c, .ok response) ∈ s.replies ∧ response.reused = false := by
  constructor
  · intro h
    obtain ⟨⟨d, answer⟩, hp, hd⟩ := List.mem_filterMap.1 h
    cases answer with
    | error e => cases hd
    | ok response =>
      simp only [createdBy] at hd
      split_ifs at hd with hreused
      obtain rfl := Option.some.inj hd
      exact ⟨response, hp, by simpa using hreused⟩
  · rintro ⟨response, hp, hreused⟩
    exact List.mem_filterMap.2 ⟨_, hp, by simp [createdBy, hreused]⟩

theorem CreationInv.created_asked (h : CreationInv sha256 s) {c : Creation} (hc : c ∈ s.created) : c ∈ s.asked := by
  obtain ⟨response, hp, -⟩ := mem_created.1 hc
  exact h.numbered.replied _ hp

theorem CreationInv.created_keys (h : CreationInv sha256 s) : (s.created.map fun c => c.request.key).Nodup := by
  rw [← tablesOf_keys sha256, ← h.tables]
  exact h.unique.committed

/-- One row at most is of a request under a key. -/
theorem CreationInv.countP_le (h : CreationInv sha256 s) (key : String × String) {ρ : Type} {kind : String} {k : ℕ}
    (row : Creation → ρ) (id : ρ → String) (hid : ∀ c, id (row c) = opaqueId kind (c.number + k)) :
    (s.created.map row).countP (fun r => (s.under key).any fun c => id r = opaqueId kind (c.number + k)) ≤ 1 := by
  have hkey : ∀ d ∈ s.created, ((s.under key).any fun c => id (row d) = opaqueId kind (c.number + k)) = true →
      d.request.key = key := by
    intro d hd hany
    obtain ⟨c, hc, heq⟩ := List.any_eq_true.1 hany
    obtain ⟨hasked, hckey⟩ := List.mem_filter.1 hc
    have hnumber := opaqueId_inj ((hid d).symm.trans (of_decide_eq_true heq))
    rw [h.numbered.eq_of_number (h.created_asked hd) hasked (by omega)]
    exact of_decide_eq_true hckey
  rw [List.countP_map]
  calc s.created.countP _ ≤ s.created.countP fun d => d.request.key = key :=
        List.countP_mono_left fun d hd hany => decide_eq_true (hkey d hd hany)
    _ = (s.created.map fun d => d.request.key).count key := by
        rw [List.count_eq_countP, List.countP_map]
        exact List.countP_congr fun d _ => by simp
    _ ≤ 1 := List.nodup_iff_count_le_one.1 h.created_keys key

/-- A response is that of a request that created, under the same key and with the same fingerprint. -/
theorem CreationInv.origin (h : CreationInv sha256 s) {c : Creation} {response : SourceResponse}
    (hp : (c, .ok response) ∈ s.replies) : ∃ d ∈ s.created, d.request.key = c.request.key ∧
      d.fingerprint sha256 = c.fingerprint sha256 ∧ response.monitoring_source_id = d.source_id ∧
      response.monitoring_sync_operation_id = d.operation_id := by
  rcases h.answers _ hp with hown | ⟨d, hd, hkey, heq⟩ | ⟨hcheck, -⟩ | hinterrupted
  · obtain rfl : response = c.response false := Except.ok.inj hown
    exact ⟨c, mem_created.2 ⟨_, hp, rfl⟩, rfl, rfl, rfl, rfl⟩
  · dsimp only at heq
    split_ifs at heq with hprint
    obtain rfl := Except.ok.inj heq
    exact ⟨d, hd, hkey, hprint, rfl, rfl⟩
  · cases hcheck
  · cases hinterrupted

theorem CreationInv.ne_of_error (h : CreationInv sha256 s) {c d : Creation} {e : CreateError}
    (hp : (c, .error e) ∈ s.replies) (hd : d ∈ s.created) : d.number ≠ c.number := by
  intro hnumber
  obtain ⟨response, hq, -⟩ := mem_created.1 hd
  have heq : ((d, .ok response) : Creation × Except CreateError SourceResponse) = (c, .error e) :=
    eq_of_key h.numbered.once hq hp hnumber
  cases (Prod.mk.inj heq).2

/-- What the invariant says of a state. -/
theorem CreationInv.idempotent (h : CreationInv sha256 s) (hsha : NoCollision sha256 s.asked) : Idempotent s where
  one key := by
    constructor <;> rw [h.tables]
    · exact h.countP_le key (k := 0) Creation.sourceRow (fun r => r.monitoring_source_id) fun _ => rfl
    · exact h.countP_le key (k := 1) Creation.generationRow (fun r => r.source_instance_generation) fun _ => rfl
    · exact h.countP_le key (k := 2) Creation.sourceRow (fun r => r.provider_scope_tenant_binding_id) fun _ => rfl
    · exact h.countP_le key (k := 3) Creation.operationRow (fun r => r.monitoring_sync_operation_id) fun _ => rfl
  whole c response hp := by
    obtain ⟨d, hd, hkey, -, hsource, hoperation⟩ := h.origin hp
    have htenant : d.request.tenant_id = c.request.tenant_id := congrArg Prod.fst hkey
    rw [← htenant]
    constructor <;> rw [h.tables, hsource, hoperation]
    · exact ⟨_, List.mem_map_of_mem hd, rfl, rfl, rfl, _, List.mem_map_of_mem hd, rfl, rfl, rfl⟩
    · exact ⟨_, List.mem_map_of_mem hd, rfl, rfl, rfl⟩
  same c response c' response' hp hp' hkey := by
    obtain ⟨d, hd, hdkey, hprint, hsource, hoperation⟩ := h.origin hp
    obtain ⟨d', hd', hdkey', hprint', hsource', hoperation'⟩ := h.origin hp'
    obtain rfl : d = d' := eq_of_key h.created_keys hd hd' (hdkey.trans (hkey.trans hdkey'.symm))
    refine ⟨hsource.trans hsource'.symm, hoperation.trans hoperation'.symm, ?_⟩
    rw [← fingerprint_eq_iff hsha (h.numbered.replied _ hp) (h.numbered.replied _ hp')]
    exact hprint.symm.trans hprint'
  answered p hp := by
    rcases h.answers p hp with hown | ⟨d, hd, hkey, heq⟩ | hrest
    · exact Or.inl hown
    · refine Or.inr (Or.inl ⟨d, hd, hkey, heq.trans ?_⟩)
      simp only [fingerprint_eq_iff hsha (h.created_asked hd) (h.numbered.replied p hp)]
    · exact Or.inr (Or.inr hrest)
  absent c e hp := by
    have hne : ∀ d ∈ s.created, ∀ kind k, opaqueId kind (d.number + k) ≠ opaqueId kind (c.number + k) :=
      fun d hd kind k heq => h.ne_of_error hp hd (by have := opaqueId_inj heq; omega)
    constructor <;> rw [h.tables] <;> intro r hr
    · obtain ⟨d, hd, rfl⟩ := List.mem_map.1 hr
      exact hne d hd "mon-src" 0
    · obtain ⟨d, hd, rfl⟩ := List.mem_map.1 hr
      exact hne d hd "mon-gen" 1
    · obtain ⟨d, hd, rfl⟩ := List.mem_map.1 hr
      exact hne d hd "mon-sync" 3
    · obtain ⟨d, hd, rfl⟩ := List.mem_map.1 hr
      exact hne d hd "mon-src" 0
    · obtain ⟨d, hd, haudit⟩ := List.mem_filterMap.1 hr
      obtain ⟨ctx, -, rfl⟩ := Option.map_eq_some_iff.1 haudit
      exact hne d hd "mon-src" 0

end Conclusion

/-- A statement interrupts no request. -/
theorem next_replies (sha256 : String → String) (s : SourceCreations) (w : ℕ) :
    ∀ p ∈ (s.next sha256 w).replies, p ∈ s.replies ∨ p.2 ≠ .error .interrupted := by
  have refused : ∀ c e, e ≠ .interrupted → ∀ p ∈ (s.refuse w c e).replies, p ∈ s.replies ∨ p.2 ≠ .error .interrupted :=
    fun c e he => List.forall_mem_append.2 ⟨fun _ => Or.inl, List.forall_mem_singleton.2 (Or.inr (by simpa using he))⟩
  have responded : ∀ c response, ∀ p ∈ (s.respond w c response).replies, p ∈ s.replies ∨ p.2 ≠ .error .interrupted :=
    fun c response => List.forall_mem_append.2 ⟨fun _ => Or.inl, List.forall_mem_singleton.2 (Or.inr (by simp))⟩
  unfold SourceCreations.next
  repeat' split
  all_goals first
    | exact fun _ => Or.inl
    | exact refused _ _ (by decide)
    | exact responded _ _

/-- No request is interrupted where no statement fails. -/
theorem not_interrupted (sha256 : String → String) {run : List Act} (hrun : ∀ w, Act.fail w ∉ run) :
    ∀ p ∈ (SourceCreations.exec sha256 run).replies, p.2 ≠ .error .interrupted := by
  induction run using List.reverseRecOn with
  | nil => exact fun p h => absurd h List.not_mem_nil
  | append_singleton run a ih =>
    have ih := ih fun w hw => hrun w (List.mem_append_left _ hw)
    rw [SourceCreations.exec, List.foldl_append]
    change ∀ p ∈ ((SourceCreations.exec sha256 run).step sha256 a).replies, p.2 ≠ .error .interrupted
    cases a with
    | create_zabbix_source w now request =>
      simp only [SourceCreations.step]
      split <;> exact ih
    | next w => exact fun p hp => (next_replies sha256 _ w p hp).elim (ih p) id
    | fail w => exact absurd (List.mem_append_right _ List.mem_cons_self) (hrun w)

/-- **Key result**: in every state of a run, the requests under a key have created one source at most, those that have
a response have the same one, a request for something else is told so, and one without a response has no row. No
request goes unanswered but by a failure. -/
theorem creation_idempotent (sha256 : String → String) (run : List Act)
    (hsha : NoCollision sha256 (SourceCreations.exec sha256 run).asked) :
    Idempotent (SourceCreations.exec sha256 run) ∧ ((∀ w, Act.fail w ∉ run) →
      ∀ p ∈ (SourceCreations.exec sha256 run).replies, p.2 ≠ .error .interrupted) :=
  ⟨(creationInv_exec sha256 run).idempotent hsha, not_interrupted sha256⟩

/-! ### A race -/

/-- A request for two groups, in the order that is given. -/
def zabbixRequest (host_group_refs : List String) : CreateRequest where
  tenant_id := "tenant-1"
  idempotency_key := "key-1"
  content := ⟨"Zabbix", "zabbix:example", "https://zabbix", "cred", host_group_refs⟩
  audit_ctx := some ⟨some "principal", some "user-1", none⟩

/-- Two requests race for a key. The second waits for the first, and loses its connection before it compares. -/
def raced : List Act :=
  [.create_zabbix_source 0 10 (zabbixRequest ["2", "4"]), .create_zabbix_source 1 11 (zabbixRequest ["4", "2"]), .next 0,
    .next 1, .next 0, .next 0, .next 0, .next 0, .next 0, .next 0, .next 1, .next 1, .fail 1]

theorem noCollision_id (asked : List Creation) : NoCollision (fun text => text) asked := fun _ _ _ _ h => h

/-- The first creates the source, and the second nothing. -/
theorem raced_once :
    Idempotent (SourceCreations.exec (fun text => text) raced) ∧
      (SourceCreations.exec (fun text => text) raced).replies.map (fun p => p.2) =
        [.ok ⟨"mon-src_0", "mon-sync_3", .completed, false⟩, .error .interrupted] :=
  ⟨(creation_idempotent (fun text => text) raced (noCollision_id _)).1, by rfl⟩

end JLMirror.Monitoring.SourceCreation
