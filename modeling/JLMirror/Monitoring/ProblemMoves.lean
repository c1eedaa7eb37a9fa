import JLMirror.Foundations.Fold
import JLMirror.Monitoring.ProblemState
import Mathlib.Order.Nat
import Mathlib.Data.List.Induction

/-!
# Problem state: what a transaction may do to the tables

Everything that the repository does to problems is one of three moves: an event is bound and
its problem opened, an active problem advances by one revision with a transition, or columns
of active problems that no transition records are set.

## What is proved

* The tables of every run are `Sound`: rows and bindings correspond, keys are unique, and no
  transition is ahead of its problem.
* On sound tables each pass of a completion is given by equations, and a completion that
  commits is a sequence of moves (`complete_moves`).
* **Key result** (`problems_go_forward`): moves only let problems go forward (`Evolves`): none
  disappears, none leaves `resolved`, revisions never fall, and resolving raises the revision.
-/

namespace JLMirror.Monitoring

open JLMirror.Foundations Relation

/-! ### Moves -/

/-- What names a problem and never changes. -/
def MonitoringProblem.identity (p : MonitoringProblem) : ℕ × String × String × String :=
  (p.problem_id, p.monitoring_source_id, p.source_instance_generation, p.monitoring_resource_id)

/-- The same of its binding. -/
def ProblemProviderBinding.identity (b : ProblemProviderBinding) : ℕ × String × String × String :=
  (b.problem_id, b.monitoring_source_id, b.source_instance_generation, b.monitoring_resource_id)

/-- The unique key of a binding, beside the problem. -/
def ProblemProviderBinding.key (b : ProblemProviderBinding) : String × String × EventId :=
  (b.monitoring_source_id, b.source_instance_generation, b.provider_external_ref)

/-- The message of the domain event of a transition. -/
def stateChangeMessage (claim : ProblemStateClaim) (id : ℕ) (t : ProblemTransition) : OutboxMessage where
  message_id := .drawn id
  producer_message_scope := "monitoring"
  message_class := .domain_event
  contract_name := stateChangeContract
  producer := "monitoring-projection"
  correlation_id := .operation claim.monitoring_sync_operation_id
  causation_id := none
  data_classification := "internal"
  serialization_profile_id := "canonical-json-utf8"
  encoded_payload := stateChangePayload claim t
  subject_type := "monitoring_problem"
  subject_id := t.problem_id
  appended_at := t.occurred_at

/-- The tables with a transition and its two messages. -/
def MonitoringDb.logged (claim : ProblemStateClaim) (t : ProblemTransition) (db : MonitoringDb) : MonitoringDb :=
  { db with
    transitions := db.transitions ++ [t]
    outbox := db.outbox ++ [invalidationMessage db.bridge t.occurred_at t, stateChangeMessage claim (db.nextId + 1) t]
    nextId := db.nextId + 2 }

/-- The tables with a newly bound event and its problem. -/
def MonitoringDb.bound (b : ProblemProviderBinding) (p : MonitoringProblem) (db : MonitoringDb) : MonitoringDb :=
  { db with bindings := db.bindings ++ [b], problems := db.problems ++ [p], nextId := db.nextId + 1 }

/-- `t` records that `p` became `p'`. -/
structure ProblemTransition.Records (t : ProblemTransition) (p p' : MonitoringProblem) : Prop where
  problem_id : t.problem_id = p.problem_id
  from_state : t.from_problem_state = some p.status.state
  to_state : t.to_problem_state = p'.status.state
  from_severity : t.from_severity_class = some p.severity_class
  to_severity : t.to_severity_class = p'.severity_class
  revision : t.projection_revision = p'.projection_revision

/-- `t` records that `p` was opened. -/
structure ProblemTransition.Opens (t : ProblemTransition) (p : MonitoringProblem) : Prop where
  problem_id : t.problem_id = p.problem_id
  from_state : t.from_problem_state = none
  to_state : t.to_problem_state = p.status.state
  from_severity : t.from_severity_class = none
  to_severity : t.to_severity_class = p.severity_class
  revision : t.projection_revision = p.projection_revision

/-- One move of a transaction. -/
inductive Move : MonitoringDb → MonitoringDb → Prop where
  /-- Nothing of the problems is touched. -/
  | aside {db db' : MonitoringDb} (hb : db'.bindings = db.bindings) (hp : db'.problems = db.problems)
      (ht : db'.transitions = db.transitions) (ho : db'.outbox = db.outbox) (hn : db.nextId ≤ db'.nextId) :
      Move db db'
  /-- An event is bound, and its problem opened. -/
  | opened {db : MonitoringDb} {claim : ProblemStateClaim} {b : ProblemProviderBinding} {p : MonitoringProblem}
      {t : ProblemTransition} (hid : b.problem_id = db.nextId) (hb : p.identity = b.identity)
      (hkey : b.key ∉ db.bindings.map ProblemProviderBinding.key) (hp : p.status = .active)
      (hpos : 0 < p.projection_revision) (ht : t.Opens p)
      (htid : t.problem_transition_id = db.nextId + 1) : Move db ((db.bound b p).logged claim t)
  /-- An active problem advances by a revision. -/
  | advanced {db : MonitoringDb} {claim : ProblemStateClaim} {p : MonitoringProblem}
      {f : MonitoringProblem → MonitoringProblem} {t : ProblemTransition} (hp : p ∈ db.problems)
      (hs : p.status = .active) (hid : ∀ r, (f r).identity = r.identity)
      (hrev : (f p).projection_revision = p.projection_revision + 1) (ht : t.Records p (f p))
      (htid : t.problem_transition_id = db.nextId) : Move db ((db.setProblem p.problem_id f).logged claim t)
  /-- Columns of active problems are set that no transition records. -/
  | touched {db : MonitoringDb} {q : MonitoringProblem → Bool} {f : MonitoringProblem → MonitoringProblem}
      (hid : ∀ r, (f r).identity = r.identity)
      (hf : ∀ r ∈ db.problems, q r = true → r.status = .active ∧ (f r).status = .active ∧
        (f r).severity_class = r.severity_class ∧ r.projection_revision ≤ (f r).projection_revision) :
      Move db { db with problems := updateWhere q f db.problems }

/-- Any number of moves. -/
def Moves : MonitoringDb → MonitoringDb → Prop := ReflTransGen Move

/-! ### Sound tables -/

/-- What holds of the tables at every moment. -/
structure MonitoringDb.Sound (db : MonitoringDb) : Prop where
  /-- Rows and bindings correspond. -/
  aligned : db.problems.map MonitoringProblem.identity = db.bindings.map ProblemProviderBinding.identity
  /-- No problem has two bindings. -/
  ids : (db.bindings.map ProblemProviderBinding.problem_id).Nodup
  /-- No event has two bindings. -/
  keys : (db.bindings.map ProblemProviderBinding.key).Nodup
  /-- The ids of problems are drawn. -/
  problem_drawn : ∀ b ∈ db.bindings, b.problem_id < db.nextId
  /-- The ids of transitions are drawn. -/
  transition_drawn : ∀ t ∈ db.transitions, t.problem_transition_id < db.nextId
  /-- The messages of the trigger are about drawn transitions. -/
  message_drawn : ∀ m ∈ db.outbox, ∀ c i, m.message_id = .digest c i → i < db.nextId
  /-- Revisions start at one. -/
  positive : ∀ p ∈ db.problems, 0 < p.projection_revision
  /-- No transition is ahead of its problem. -/
  revisions : ∀ t ∈ db.transitions, ∃ p ∈ db.problems,
    p.problem_id = t.problem_id ∧ t.projection_revision ≤ p.projection_revision

namespace MonitoringDb.Sound

variable {db : MonitoringDb}

theorem problem_ids (h : db.Sound) : (db.problems.map MonitoringProblem.problem_id).Nodup := by
  have hmap : db.problems.map MonitoringProblem.problem_id = db.bindings.map ProblemProviderBinding.problem_id := by
    have := congrArg (List.map Prod.fst) h.aligned
    simpa [List.map_map, Function.comp_def, MonitoringProblem.identity, ProblemProviderBinding.identity] using this
  rw [hmap]
  exact h.ids

variable {b : ProblemProviderBinding}

theorem exists_problem (h : db.Sound) (hb : b ∈ db.bindings) : ∃ p ∈ db.problems, p.identity = b.identity := by
  have hmem : b.identity ∈ db.problems.map MonitoringProblem.identity := by
    rw [h.aligned]
    exact List.mem_map_of_mem hb
  simpa using hmem

variable {p : MonitoringProblem}

theorem exists_binding (h : db.Sound) (hp : p ∈ db.problems) : ∃ b ∈ db.bindings, b.identity = p.identity := by
  have hmem : p.identity ∈ db.bindings.map ProblemProviderBinding.identity := by
    rw [← h.aligned]
    exact List.mem_map_of_mem hp
  simpa using hmem

theorem drawn (h : db.Sound) (hp : p ∈ db.problems) : p.problem_id < db.nextId := by
  obtain ⟨b, hb, hid⟩ := h.exists_binding hp
  have := h.problem_drawn b hb
  simp only [ProblemProviderBinding.identity, MonitoringProblem.identity, Prod.mk.injEq] at hid
  omega

theorem problem_eq (h : db.Sound) (hp : p ∈ db.problems) : db.problem p.problem_id = some p := by
  cases hf : db.problem p.problem_id with
  | none => simpa using List.find?_eq_none.1 hf p hp
  | some p' =>
    have hid : p'.problem_id = p.problem_id := by simpa using List.find?_some hf
    rw [eq_of_key h.problem_ids (List.mem_of_find?_eq_some hf) hp hid]

/-- A binding is found by its key. -/
theorem bindingOf_eq (h : db.Sound) (hb : b ∈ db.bindings) {claim : ProblemStateClaim}
    (hs : b.monitoring_source_id = claim.monitoring_source_id)
    (hg : b.source_instance_generation = claim.source_instance_generation) :
    db.bindingOf claim b.provider_external_ref = some b := by
  cases hf : db.bindingOf claim b.provider_external_ref with
  | none => simpa [hs, hg] using List.find?_eq_none.1 hf b hb
  | some b' =>
    have hkey : b'.key = b.key := by
      have := List.find?_some hf
      simp only [decide_eq_true_eq] at this
      simp [ProblemProviderBinding.key, this, hs, hg]
    rw [eq_of_key h.keys (List.mem_of_find?_eq_some hf) hb hkey]

end MonitoringDb.Sound

theorem MonitoringDb.sound_empty (bridge : BridgeVersion) : (MonitoringDb.empty bridge).Sound := by
  constructor <;> simp [MonitoringDb.empty]

/-! ### Every move keeps the tables sound -/

namespace MonitoringDb.Sound

variable {db db' : MonitoringDb}

theorem aside (h : db.Sound) (hb : db'.bindings = db.bindings) (hp : db'.problems = db.problems)
    (ht : db'.transitions = db.transitions) (ho : db'.outbox = db.outbox) (hn : db.nextId ≤ db'.nextId) :
    db'.Sound where
  aligned := by rw [hb, hp]; exact h.aligned
  ids := by rw [hb]; exact h.ids
  keys := by rw [hb]; exact h.keys
  problem_drawn := by
    rw [hb]
    exact fun b hmem => (h.problem_drawn b hmem).trans_le hn
  transition_drawn := by
    rw [ht]
    exact fun t hmem => (h.transition_drawn t hmem).trans_le hn
  message_drawn := by
    rw [ho]
    exact fun m hmem c i hi => (h.message_drawn m hmem c i hi).trans_le hn
  positive := by rw [hp]; exact h.positive
  revisions := by rw [hp, ht]; exact h.revisions

/-- Logging a transition that its problem has reached. -/
theorem logged (h : db.Sound) {claim : ProblemStateClaim} {t : ProblemTransition}
    (htid : t.problem_transition_id = db.nextId)
    (ht : ∃ p ∈ db.problems, p.problem_id = t.problem_id ∧ t.projection_revision ≤ p.projection_revision) :
    (db.logged claim t).Sound where
  aligned := h.aligned
  ids := h.ids
  keys := h.keys
  problem_drawn b hb := by
    have := h.problem_drawn b hb
    simp only [MonitoringDb.logged]
    omega
  transition_drawn u hu := by
    simp only [MonitoringDb.logged, List.mem_append, List.mem_singleton] at hu ⊢
    rcases hu with hu | rfl
    · have := h.transition_drawn u hu
      omega
    · omega
  message_drawn m hm c i hi := by
    simp only [MonitoringDb.logged, List.mem_append, List.mem_cons, List.not_mem_nil, or_false] at hm ⊢
    rcases hm with hm | rfl | rfl
    · have := h.message_drawn m hm c i hi
      omega
    · simp only [invalidationMessage, invalidationId, MessageId.digest.injEq] at hi
      omega
    · simp [stateChangeMessage] at hi
  positive := h.positive
  revisions u hu := by
    simp only [MonitoringDb.logged, List.mem_append, List.mem_singleton] at hu
    rcases hu with hu | rfl
    · exact h.revisions u hu
    · exact ht

/-- Binding a new event to a new problem. -/
theorem bound (h : db.Sound) {b : ProblemProviderBinding} {p : MonitoringProblem} (hid : b.problem_id = db.nextId)
    (hb : p.identity = b.identity) (hkey : b.key ∉ db.bindings.map ProblemProviderBinding.key)
    (hpos : 0 < p.projection_revision) : (db.bound b p).Sound where
  aligned := by simp [MonitoringDb.bound, h.aligned, hb]
  ids := by
    simp only [MonitoringDb.bound, List.map_append, List.map_cons, List.map_nil, List.nodup_append, h.ids,
      List.nodup_singleton, true_and]
    intro i hi j hj
    obtain ⟨b', hb', rfl⟩ := List.mem_map.1 hi
    have := h.problem_drawn b' hb'
    simp only [List.mem_singleton] at hj
    omega
  keys := by
    simp only [MonitoringDb.bound, List.map_append, List.map_cons, List.map_nil, List.nodup_append, h.keys,
      List.nodup_singleton, true_and]
    intro k hk j hj hkj
    rw [hkj, List.mem_singleton.1 hj] at hk
    exact hkey hk
  problem_drawn b' hb' := by
    simp only [MonitoringDb.bound, List.mem_append, List.mem_singleton] at hb' ⊢
    rcases hb' with hb' | rfl
    · have := h.problem_drawn b' hb'
      omega
    · omega
  transition_drawn t ht := (h.transition_drawn t ht).trans (Nat.lt_succ_self _)
  message_drawn m hm c i hi := (h.message_drawn m hm c i hi).trans (Nat.lt_succ_self _)
  positive p' hp' := by
    simp only [MonitoringDb.bound, List.mem_append, List.mem_singleton] at hp'
    rcases hp' with hp' | rfl
    · exact h.positive p' hp'
    · exact hpos
  revisions t ht := by
    obtain ⟨p', hp', hrev⟩ := h.revisions t ht
    exact ⟨p', List.mem_append_left _ hp', hrev⟩

variable {f : MonitoringProblem → MonitoringProblem}

/-- Setting columns of rows, with no revision falling. -/
theorem update (h : db.Sound) {q : MonitoringProblem → Bool} (hid : ∀ r, (f r).identity = r.identity)
    (hf : ∀ r ∈ db.problems, q r = true → r.projection_revision ≤ (f r).projection_revision) :
    ({ db with problems := updateWhere q f db.problems } : MonitoringDb).Sound where
  aligned := (map_updateWhere hid _).trans h.aligned
  ids := h.ids
  keys := h.keys
  problem_drawn := h.problem_drawn
  transition_drawn := h.transition_drawn
  message_drawn := h.message_drawn
  positive p' hp' := by
    obtain ⟨p, hp, rfl⟩ := mem_updateWhere.1 hp'
    have hpos := h.positive p hp
    split_ifs with hq
    · exact hpos.trans_le (hf p hp hq)
    · exact hpos
  revisions t ht := by
    obtain ⟨p, hp, hpid, hrev⟩ := h.revisions t ht
    refine ⟨if q p then f p else p, mem_updateWhere.2 ⟨p, hp, rfl⟩, ?_⟩
    split_ifs with hq
    · have hfp := hf p hp hq
      exact ⟨(congrArg Prod.fst (hid p)).trans hpid, hrev.trans hfp⟩
    · exact ⟨hpid, hrev⟩

theorem setProblem (h : db.Sound) {p : MonitoringProblem} (hp : p ∈ db.problems)
    (hid : ∀ r, (f r).identity = r.identity) (hf : p.projection_revision ≤ (f p).projection_revision) :
    (db.setProblem p.problem_id f).Sound := by
  refine h.update hid fun r hr hq => ?_
  rw [eq_of_key h.problem_ids hr hp (of_decide_eq_true hq)]
  exact hf

end MonitoringDb.Sound

theorem mem_setProblem {db : MonitoringDb} {p : MonitoringProblem} (f : MonitoringProblem → MonitoringProblem)
    (hp : p ∈ db.problems) : f p ∈ (db.setProblem p.problem_id f).problems :=
  mem_updateWhere.2 ⟨p, hp, by simp⟩

theorem Move.sound {db db' : MonitoringDb} (m : Move db db') (h : db.Sound) : db'.Sound := by
  cases m with
  | aside hb hp ht ho hn => exact h.aside hb hp ht ho hn
  | @opened claim b p t hid hb hkey hp hpos ht htid =>
    exact (h.bound hid hb hkey hpos).logged htid ⟨p, by simp [MonitoringDb.bound], ht.problem_id.symm, ht.revision.le⟩
  | @advanced claim p f t hp hs hid hrev ht htid =>
    have hid' : (f p).problem_id = p.problem_id := congrArg Prod.fst (hid p)
    exact (h.setProblem hp hid (by omega)).logged htid
      ⟨f p, mem_setProblem f hp, hid'.trans ht.problem_id.symm, ht.revision.le⟩
  | touched hid hf => exact h.update hid fun r hr hq => (hf r hr hq).2.2.2

theorem Moves.sound {db db' : MonitoringDb} (m : Moves db db') (h : db.Sound) : db'.Sound := by
  induction m with
  | refl => exact h
  | tail _ m ih => exact m.sound ih

/-! ### Moves only go forward -/

/-- How the problems of `db'` relate to those of an earlier `db`. -/
structure Evolves (db db' : MonitoringDb) : Prop where
  drawn : db.nextId ≤ db'.nextId
  /-- A binding stays. -/
  bindings : ∀ b ∈ db.bindings, b ∈ db'.bindings
  /-- A problem stays, and its revision does not fall. -/
  stays : ∀ p ∈ db.problems, ∃ p' ∈ db'.problems,
    p'.identity = p.identity ∧ p.projection_revision ≤ p'.projection_revision
  /-- A resolved problem is never touched again. -/
  frozen : ∀ p ∈ db.problems, p.status ≠ .active → p ∈ db'.problems
  /-- Resolving a problem raises its revision. -/
  raises : ∀ p ∈ db.problems, p.status = .active → ∀ p' ∈ db'.problems, p'.problem_id = p.problem_id →
    p'.status ≠ .active → p.projection_revision < p'.projection_revision
  /-- What is new has a new id. -/
  fresh : ∀ p' ∈ db'.problems, (∃ p ∈ db.problems, p.identity = p'.identity) ∨ db.nextId ≤ p'.problem_id

namespace Evolves

variable {db db' db'' : MonitoringDb}

/-- The problems and their bindings are the same. -/
theorem of_eq (hb : db'.bindings = db.bindings) (hp : db'.problems = db.problems) (hn : db.nextId ≤ db'.nextId)
    (h : db.Sound) : Evolves db db' where
  drawn := hn
  bindings := by simp [hb]
  stays := by
    rw [hp]
    exact fun p hmem => ⟨p, hmem, rfl, le_rfl⟩
  frozen := by
    rw [hp]
    exact fun p hmem _ => hmem
  raises := by
    rw [hp]
    intro p hmem hs p' hmem' hid hs'
    rw [eq_of_key h.problem_ids hmem' hmem hid] at hs'
    exact absurd hs hs'
  fresh := by
    rw [hp]
    exact fun p' hmem => Or.inl ⟨p', hmem, rfl⟩

theorem trans (h : Evolves db db') (h' : Evolves db' db'') (hs : db''.Sound) : Evolves db db'' where
  drawn := h.drawn.trans h'.drawn
  bindings b hb := h'.bindings b (h.bindings b hb)
  stays p hp := by
    obtain ⟨p', hp', hid, hrev⟩ := h.stays p hp
    obtain ⟨p'', hp'', hid', hrev'⟩ := h'.stays p' hp'
    exact ⟨p'', hp'', hid'.trans hid, hrev.trans hrev'⟩
  frozen p hp hr := h'.frozen p (h.frozen p hp hr) hr
  raises p hp hact p'' hp'' hid hr := by
    obtain ⟨p', hp', hid', hrev⟩ := h.stays p hp
    have hpid : p'.problem_id = p.problem_id := congrArg Prod.fst hid'
    by_cases hact' : p'.status = .active
    · exact hrev.trans_lt (h'.raises p' hp' hact' p'' hp'' (hid.trans hpid.symm) hr)
    · -- resolved in between: the row is frozen from there on
      have hrev' := h.raises p hp hact p' hp' hpid hact'
      rwa [eq_of_key hs.problem_ids (h'.frozen p' hp' hact') hp'' (hpid.trans hid.symm)] at hrev'
  fresh p'' hp'' := by
    rcases h'.fresh p'' hp'' with ⟨p', hp', hid'⟩ | hnew
    · rcases h.fresh p' hp' with ⟨p, hp, hid⟩ | hnew
      · exact Or.inl ⟨p, hp, hid.trans hid'⟩
      · have hpid : p'.problem_id = p''.problem_id := congrArg Prod.fst hid'
        exact Or.inr (by omega)
    · exact Or.inr (h.drawn.trans hnew)

/-- An update of active rows that keeps their identity, where a row that it resolves gains a revision. -/
theorem update (h : db.Sound) {q : MonitoringProblem → Bool} {f : MonitoringProblem → MonitoringProblem}
    (hid : ∀ r, (f r).identity = r.identity)
    (hf : ∀ r ∈ db.problems, q r = true → r.status = .active ∧ r.projection_revision ≤ (f r).projection_revision ∧
      ((f r).status ≠ .active → r.projection_revision < (f r).projection_revision)) :
    Evolves db { db with problems := updateWhere q f db.problems } where
  drawn := le_rfl
  bindings b hb := hb
  stays p hp := by
    refine ⟨if q p then f p else p, mem_updateWhere.2 ⟨p, hp, rfl⟩, ?_⟩
    split_ifs with hq
    · exact ⟨hid p, (hf p hp hq).2.1⟩
    · exact ⟨rfl, le_rfl⟩
  frozen p hp hr := mem_updateWhere_of_not hp (by
    by_contra hq
    exact hr (hf p hp (by simpa using hq)).1)
  raises p hp hact p' hp' hpid hr := by
    obtain ⟨r, hr', rfl⟩ := mem_updateWhere.1 hp'
    have hrid : (if q r then f r else r).identity = r.identity := by
      split_ifs
      · exact hid r
      · rfl
    have hrp : r = p := eq_of_key h.problem_ids hr' hp ((congrArg Prod.fst hrid).symm.trans hpid)
    subst hrp
    by_cases hq : q r
    · simp only [hq, if_true] at hr ⊢
      exact (hf r hp hq).2.2 hr
    · simp only [hq] at hr
      exact absurd hact hr
  fresh p' hp' := by
    obtain ⟨r, hr, rfl⟩ := mem_updateWhere.1 hp'
    refine Or.inl ⟨r, hr, ?_⟩
    split_ifs
    · exact (hid r).symm
    · rfl

theorem logged (h : db.Sound) (claim : ProblemStateClaim) (t : ProblemTransition) :
    Evolves db (db.logged claim t) :=
  of_eq rfl rfl (by simp [MonitoringDb.logged]) h

/-- Opening a problem with a new id. -/
theorem bound (h : db.Sound) {b : ProblemProviderBinding} {p : MonitoringProblem} (hid : b.problem_id = db.nextId)
    (hb : p.identity = b.identity) : Evolves db (db.bound b p) := by
  have hp : p.problem_id = db.nextId := (congrArg Prod.fst hb).trans hid
  refine ⟨by simp [MonitoringDb.bound], ?_, ?_, ?_, ?_, ?_⟩
  · exact fun b' hb' => List.mem_append_left _ hb'
  · exact fun p' hp' => ⟨p', List.mem_append_left _ hp', rfl, le_rfl⟩
  · exact fun p' hp' _ => List.mem_append_left _ hp'
  · intro r hr hact p' hp' hpid hr'
    simp only [MonitoringDb.bound, List.mem_append, List.mem_singleton] at hp'
    rcases hp' with hp' | rfl
    · rw [eq_of_key h.problem_ids hp' hr hpid] at hr'
      exact absurd hact hr'
    · have := h.drawn hr
      omega
  · intro p' hp'
    simp only [MonitoringDb.bound, List.mem_append, List.mem_singleton] at hp'
    rcases hp' with hp' | rfl
    · exact Or.inl ⟨p', hp', rfl⟩
    · exact Or.inr hp.ge

end Evolves

theorem Move.evolves {db db' : MonitoringDb} (m : Move db db') (h : db.Sound) : Evolves db db' := by
  have hs := m.sound h
  cases m with
  | aside hb hp ht ho hn => exact .of_eq hb hp hn h
  | @opened claim b p t hid hb hkey hp hpos ht htid =>
    exact (Evolves.bound h hid hb).trans (.logged (h.bound hid hb hkey hpos) claim t) hs
  | @advanced claim p f t hp hact hid hrev ht htid =>
    have hset : Evolves db (db.setProblem p.problem_id f) := by
      refine .update h hid fun r hr hq => ?_
      rw [eq_of_key h.problem_ids hr hp (of_decide_eq_true hq)]
      exact ⟨hact, by omega, fun _ => by omega⟩
    exact hset.trans (.logged (h.setProblem hp hid (by omega)) claim t) hs
  | touched hid hf =>
    refine .update h hid fun r hr hq => ?_
    obtain ⟨hact, hact', -, hrev⟩ := hf r hr hq
    exact ⟨hact, hrev, fun hne => absurd hact' hne⟩

theorem Moves.evolves {db db' : MonitoringDb} (m : Moves db db') (h : db.Sound) : Evolves db db' := by
  induction m with
  | refl => exact .of_eq rfl rfl le_rfl h
  | @tail db' db'' m step ih =>
    have hs : db'.Sound := Moves.sound m h
    exact ih.trans (step.evolves hs) (step.sound hs)

/-! ### The passes as equations -/

section Equations

variable {db : MonitoringDb} {now : Timestamp} {claim : ProblemStateClaim}

theorem publish_invalidation_eq {t : ProblemTransition} (h : ∀ m ∈ db.outbox, m.message_id ≠ invalidationId t) :
    publish_invalidation now t db = .ok { db with outbox := db.outbox ++ [invalidationMessage db.bridge now t] } := by
  have hfind : (db.outbox.find? fun m => m.producer_message_scope = bridgeScope ∧
      m.message_id = invalidationId t) = none := by
    simp only [List.find?_eq_none, decide_eq_true_eq, not_and]
    exact fun m hm _ => h m hm
  rw [publish_invalidation, hfind]

variable {reason : TransitionReason}

/-- A transition that repeats no revision is logged, with both its messages. -/
theorem insert_transition_eq {pid : ℕ} {rid : String} {fs : Option ProblemState} {ts : ProblemState}
    {fsev : Option SeverityClass} {tsev : SeverityClass} {ref : String} {rev : ℕ}
    (hrev : ∀ u ∈ db.transitions, u.problem_id = pid → u.projection_revision ≠ rev)
    (hmsg : ∀ m ∈ db.outbox, ∀ c i, m.message_id = .digest c i → i < db.nextId) :
    _insert_transition now claim pid rid fs ts fsev tsev reason ref rev db =
      .ok (db.logged claim (transitionRow now claim pid rid fs ts fsev tsev reason ref rev db.nextId)) := by
  have hany : ¬(db.transitions.any fun u => u.problem_id = pid ∧ u.projection_revision = rev) = true := by
    simp only [List.any_eq_true, decide_eq_true_eq, not_exists, not_and]
    exact hrev
  let t := transitionRow now claim pid rid fs ts fsev tsev reason ref rev db.nextId
  let db₁ : MonitoringDb := { db with transitions := db.transitions ++ [t], nextId := db.nextId + 1 }
  have hpub : publish_invalidation now t db₁ =
      .ok { db₁ with outbox := db₁.outbox ++ [invalidationMessage db₁.bridge now t] } :=
    publish_invalidation_eq fun m hm hid => (hmsg m hm _ _ hid).false
  rw [_insert_transition, if_neg hany]
  show (publish_invalidation now t db₁ >>= fun db => pure (_emit_domain_event now stateChangeContract
    "monitoring_problem" pid (stateChangePayload claim t) claim.monitoring_sync_operation_id db)) = _
  rw [hpub]
  show Except.ok _ = Except.ok _
  simp [_emit_domain_event, MonitoringDb.logged, stateChangeMessage, transitionRow, db₁, t]

/-- The tables after an event is seen for the first time. -/
def MonitoringDb.openProblem (db : MonitoringDb) (now : Timestamp) (claim : ProblemStateClaim)
    (prob : ProblemObservation) (trigger_ref : String) : MonitoringDb :=
  (db.bound (bindingRow claim prob trigger_ref db.nextId) (openedRow claim prob db.nextId)).logged claim
    (transitionRow now claim db.nextId prob.monitoring_resource_id none .active none prob.severity_class
      .provider_positive s!"zabbix-problem:{prob.provider_eventid.text}" 1 (db.nextId + 1))

/-- The tables after the event of an active problem is seen again. -/
def MonitoringDb.observeProblem (db : MonitoringDb) (now : Timestamp) (claim : ProblemStateClaim)
    (prob : ProblemObservation) (p : MonitoringProblem) : MonitoringDb :=
  if p.differs prob then
    if p.severity_class ≠ prob.severity_class then
      (db.setProblem p.problem_id (changedRow claim prob (p.projection_revision + 1))).logged claim
        (transitionRow now claim p.problem_id prob.monitoring_resource_id (some .active) .active
          (some p.severity_class) prob.severity_class .severity_change
          s!"zabbix-problem:{prob.provider_eventid.text}" (p.projection_revision + 1) db.nextId)
    else db.setProblem p.problem_id (changedRow claim prob (p.projection_revision + 1))
  else db.setProblem p.problem_id (confirmedRow claim prob)

/-- The tables after an active problem is resolved. -/
def MonitoringDb.resolveProblem (db : MonitoringDb) (now : Timestamp) (claim : ProblemStateClaim)
    (resolved_at : Timestamp) (reason : TransitionReason) (ref : String) (p : MonitoringProblem) : MonitoringDb :=
  (db.setProblem p.problem_id (resolvedRow claim resolved_at (p.projection_revision + 1))).logged claim
    (transitionRow now claim p.problem_id p.monitoring_resource_id (some .active) .resolved (some p.severity_class)
      p.severity_class reason ref (p.projection_revision + 1) db.nextId)

variable {p : MonitoringProblem}

theorem MonitoringDb.Sound.next_revision (h : db.Sound) (hp : p ∈ db.problems) :
    ∀ u ∈ db.transitions, u.problem_id = p.problem_id → u.projection_revision ≠ p.projection_revision + 1 := by
  intro u hu hid
  obtain ⟨p', hp', hid', hrev⟩ := h.revisions u hu
  rw [eq_of_key h.problem_ids hp' hp (hid'.trans hid)] at hrev
  omega

variable {prob : ProblemObservation} {trigger_ref : String}

theorem projectProblem_open (h : db.Sound) :
    projectProblem now claim prob db.nextId
        { db with bindings := db.bindings ++ [bindingRow claim prob trigger_ref db.nextId], nextId := db.nextId + 1 } =
      .ok (db.openProblem now claim prob trigger_ref) := by
  have hnone : db.problem db.nextId = none := by
    simp only [MonitoringDb.problem, List.find?_eq_none, decide_eq_true_eq]
    exact fun p hp => (h.drawn hp).ne
  have hnew : ∀ u ∈ db.transitions, u.problem_id = db.nextId → u.projection_revision ≠ 1 := by
    intro u hu hid
    obtain ⟨p, hp, hid', -⟩ := h.revisions u hu
    exact absurd (h.drawn hp) (by omega)
  simp only [projectProblem]
  rw [show MonitoringDb.problem { db with
      bindings := db.bindings ++ [bindingRow claim prob trigger_ref db.nextId]
      nextId := db.nextId + 1 } db.nextId = none from hnone]
  refine insert_transition_eq hnew fun m hm c i hi => ?_
  exact (h.message_drawn m hm c i hi).trans (Nat.lt_succ_self _)

theorem projectProblem_observe (h : db.Sound) (hp : p ∈ db.problems) (hact : p.status = .active) :
    projectProblem now claim prob p.problem_id db = .ok (db.observeProblem now claim prob p) := by
  simp only [projectProblem, h.problem_eq hp, hact, ProblemStatus.state, reduceCtorEq, if_false,
    MonitoringDb.observeProblem]
  split_ifs
  · exact insert_transition_eq (h.next_revision hp) h.message_drawn
  · rfl
  · rfl

theorem resolveProblem_eq (h : db.Sound) (hp : p ∈ db.problems) {resolved_at : Timestamp} {ref : String} :
    _insert_transition now claim p.problem_id p.monitoring_resource_id (some .active) .resolved (some p.severity_class)
        p.severity_class reason ref (p.projection_revision + 1)
        (db.setProblem p.problem_id (resolvedRow claim resolved_at (p.projection_revision + 1))) =
      .ok (db.resolveProblem now claim resolved_at reason ref p) :=
  insert_transition_eq (h.next_revision hp) h.message_drawn

variable {raw_rows : List ZabbixProblemEvidence} {s : MonitoringDb × List EventId}

theorem persistProblem_skip (ht : trigger_by_event raw_rows prob.provider_eventid = none) :
    persistProblem now claim raw_rows s prob = .ok s := by
  simp only [persistProblem, ht]

theorem persistProblem_stale (ht : trigger_by_event raw_rows prob.provider_eventid = some trigger_ref)
    (hr : s.1.resourceCurrent claim prob.monitoring_resource_id = false) :
    persistProblem now claim raw_rows s prob = .error "monitoring.problem_state_resource_association_not_current" := by
  simp only [persistProblem, ht, _assert_resource_current, hr]
  rfl

theorem persistProblem_open (h : s.1.Sound) (ht : trigger_by_event raw_rows prob.provider_eventid = some trigger_ref)
    (hr : s.1.resourceCurrent claim prob.monitoring_resource_id = true)
    (hb : s.1.bindingOf claim prob.provider_eventid = none) :
    persistProblem now claim raw_rows s prob =
      .ok (s.1.openProblem now claim prob trigger_ref, s.2 ++ [prob.provider_eventid]) := by
  simp only [persistProblem, ht, _assert_resource_current, hr, if_true, bindProblem, hb]
  show (projectProblem now claim prob s.1.nextId _ >>= fun db => pure (db, s.2 ++ [prob.provider_eventid])) = _
  rw [projectProblem_open h]
  rfl

/-- A bound event must name its resource and trigger, and must not have been resolved. -/
theorem persistProblem_bound {b : ProblemProviderBinding} (h : s.1.Sound)
    (ht : trigger_by_event raw_rows prob.provider_eventid = some trigger_ref)
    (hr : s.1.resourceCurrent claim prob.monitoring_resource_id = true)
    (hb : s.1.bindingOf claim prob.provider_eventid = some b) (hp : p ∈ s.1.problems)
    (hid : p.problem_id = b.problem_id) :
    persistProblem now claim raw_rows s prob =
      if b.monitoring_resource_id ≠ prob.monitoring_resource_id ∨ b.provider_trigger_ref ≠ trigger_ref then
        .error "monitoring.problem_state_provider_identity_collision"
      else if p.status ≠ .active then .error "monitoring.problem_state_resolved_event_reappeared"
      else .ok (s.1.observeProblem now claim prob p, s.2 ++ [prob.provider_eventid]) := by
  simp only [persistProblem, ht, _assert_resource_current, hr, if_true, bindProblem, hb, ← hid]
  show ((if _ then _ else _ : Except String (ℕ × MonitoringDb)) >>= fun r =>
    projectProblem now claim prob r.1 r.2 >>= fun db => pure (db, s.2 ++ [prob.provider_eventid])) = _
  split_ifs with hcol hact
  · rfl
  · have hres : p.status.state = .resolved := by
      cases hs : p.status with
      | active => exact absurd hs hact
      | resolved r => rfl
    show (projectProblem now claim prob p.problem_id s.1 >>= _) = _
    simp only [projectProblem, h.problem_eq hp, hres, if_true]
    rfl
  · show (projectProblem now claim prob p.problem_id s.1 >>= _) = _
    rw [projectProblem_observe h hp (by simpa using hact)]
    rfl

end Equations

/-! ### The passes as moves -/

section Passes

variable {db : MonitoringDb} (now : Timestamp) (claim : ProblemStateClaim)

variable {p : MonitoringProblem}

theorem MonitoringDb.Sound.of_id (h : db.Sound) {r : MonitoringProblem} (hp : p ∈ db.problems) (hr : r ∈ db.problems)
    (hid : decide (r.problem_id = p.problem_id) = true) : r = p :=
  eq_of_key h.problem_ids hr hp (of_decide_eq_true hid)

theorem openProblem_moves (prob : ProblemObservation) (trigger_ref : String)
    (hb : db.bindingOf claim prob.provider_eventid = none) :
    Moves db (db.openProblem now claim prob trigger_ref) := by
  have hkey : (bindingRow claim prob trigger_ref db.nextId).key ∉ db.bindings.map ProblemProviderBinding.key := by
    intro hmem
    obtain ⟨b, hmem, hk⟩ := List.mem_map.1 hmem
    simp only [ProblemProviderBinding.key, bindingRow, Prod.mk.injEq] at hk
    simpa [hk] using List.find?_eq_none.1 hb b hmem
  exact .single (.opened rfl rfl hkey rfl Nat.one_pos ⟨rfl, rfl, rfl, rfl, rfl, rfl⟩ rfl)

theorem observeProblem_moves (h : db.Sound) (prob : ProblemObservation) (hp : p ∈ db.problems)
    (hact : p.status = .active) : Moves db (db.observeProblem now claim prob p) := by
  unfold MonitoringDb.observeProblem
  split_ifs with hd hsev
  · refine .single (.advanced hp hact (fun _ => rfl) rfl ⟨rfl, ?_, ?_, rfl, rfl, rfl⟩ rfl)
    · rw [hact]
      rfl
    · show ProblemState.active = p.status.state
      rw [hact]
      rfl
  · -- acknowledgement, summary or tags only: the revision rises without a transition
    refine .single (.touched (fun _ => rfl) fun r hr hid => ?_)
    rw [h.of_id hp hr hid]
    exact ⟨hact, hact, (not_not.1 hsev).symm, Nat.le_succ _⟩
  · refine .single (.touched (fun _ => rfl) fun r hr hid => ?_)
    rw [h.of_id hp hr hid]
    exact ⟨hact, hact, rfl, le_rfl⟩

theorem resolveProblem_moves (resolved_at : Timestamp) (reason : TransitionReason) (ref : String)
    (hp : p ∈ db.problems) (hact : p.status = .active) :
    Moves db (db.resolveProblem now claim resolved_at reason ref p) :=
  .single (.advanced hp hact (fun _ => rfl) rfl ⟨rfl, by rw [hact]; rfl, rfl, rfl, rfl, rfl⟩ rfl)

theorem MonitoringDb.Sound.exists_row (h : db.Sound) {e : EventId} {b : ProblemProviderBinding}
    (hb : db.bindingOf claim e = some b) :
    ∃ p ∈ db.problems, p.problem_id = b.problem_id ∧ p.monitoring_resource_id = b.monitoring_resource_id := by
  obtain ⟨p, hp, hid⟩ := h.exists_problem (List.mem_of_find?_eq_some hb)
  simp only [MonitoringProblem.identity, ProblemProviderBinding.identity, Prod.mk.injEq] at hid
  exact ⟨p, hp, hid.1, hid.2.2.2⟩

theorem persistProblem_moves {raw_rows : List ZabbixProblemEvidence} {prob : ProblemObservation}
    {s s' : MonitoringDb × List EventId} (h : s.1.Sound) (hok : persistProblem now claim raw_rows s prob = .ok s') :
    Moves s.1 s'.1 := by
  cases ht : trigger_by_event raw_rows prob.provider_eventid with
  | none =>
    rw [persistProblem_skip ht] at hok
    rw [← Except.ok.inj hok]
    exact .refl
  | some trigger_ref =>
    cases hr : s.1.resourceCurrent claim prob.monitoring_resource_id with
    | false =>
      rw [persistProblem_stale ht hr] at hok
      cases hok
    | true =>
      cases hb : s.1.bindingOf claim prob.provider_eventid with
      | none =>
        rw [persistProblem_open h ht hr hb] at hok
        rw [← Except.ok.inj hok]
        exact openProblem_moves now claim prob trigger_ref hb
      | some b =>
        obtain ⟨p, hp, hid, -⟩ := h.exists_row claim hb
        rw [persistProblem_bound h ht hr hb hp hid] at hok
        split_ifs at hok with hcol hact
        rw [← Except.ok.inj hok]
        exact observeProblem_moves now claim h prob hp (not_not.1 hact)

theorem MonitoringDb.boundProblem_mem {e : EventId} (hp : db.boundProblem claim e = some p) : p ∈ db.problems := by
  obtain ⟨b, -, hp⟩ := Option.bind_eq_some_iff.1 hp
  exact List.mem_of_find?_eq_some hp

variable {ev : ZabbixRecoveryEvidence}

theorem persistRecovery_none (hp : db.boundProblem claim ev.problem_eventid = none) :
    persistRecovery now claim db ev = .ok db := by
  simp only [persistRecovery, hp]

theorem persistRecovery_active (h : db.Sound) (hp : db.boundProblem claim ev.problem_eventid = some p)
    (hact : p.status = .active) :
    persistRecovery now claim db ev =
      .ok (db.resolveProblem now claim (fromtimestamp ev.clock) .provider_recovery
        s!"zabbix-recovery:{ev.recovery_eventid.text}" p) := by
  simp only [persistRecovery, hp, hact]
  exact resolveProblem_eq h (db.boundProblem_mem claim hp)

theorem persistRecovery_resolved {r : Timestamp} (hp : db.boundProblem claim ev.problem_eventid = some p)
    (hres : p.status = .resolved r) :
    persistRecovery now claim db ev =
      if r ≠ fromtimestamp ev.clock then .error "monitoring.problem_state_conflicting_recovery_evidence"
      else .ok db := by
  simp only [persistRecovery, hp, hres]

theorem persistRecovery_moves {db' : MonitoringDb} (h : db.Sound) (hok : persistRecovery now claim db ev = .ok db') :
    Moves db db' := by
  cases hp : db.boundProblem claim ev.problem_eventid with
  | none =>
    rw [persistRecovery_none now claim hp] at hok
    rw [← Except.ok.inj hok]
    exact .refl
  | some p =>
    cases hst : p.status with
    | active =>
      rw [persistRecovery_active now claim h hp hst] at hok
      rw [← Except.ok.inj hok]
      exact resolveProblem_moves now claim _ _ _ (db.boundProblem_mem claim hp) hst
    | resolved r =>
      rw [persistRecovery_resolved now claim hp hst] at hok
      split_ifs at hok
      rw [← Except.ok.inj hok]
      exact .refl

/-- The update of an omitted row. -/
def omittedRow (p : MonitoringProblem) : MonitoringProblem := resolvedRow claim now (p.projection_revision + 1) p

/-- Rows of the table that are fetched as active are resolved one by one, and never refused. -/
theorem omitProblem_all (h : db.Sound) {rows : List MonitoringProblem} (hmem : ∀ p ∈ rows, p ∈ db.problems)
    (hact : ∀ p ∈ rows, p.status = .active) (hnd : (rows.map MonitoringProblem.problem_id).Nodup) :
    ∃ db', rows.foldlM (omitProblem now claim) db = .ok db' ∧ Moves db db' ∧ db'.bindings = db.bindings ∧
      db'.problems = updateWhere (fun p => p ∈ rows) (omittedRow now claim) db.problems := by
  induction rows generalizing db with
  | nil => exact ⟨db, rfl, .refl, rfl, by simp [updateWhere]⟩
  | cons p rows ih =>
    obtain ⟨hpn, hnd⟩ := List.nodup_cons.1 hnd
    have hp := hmem p List.mem_cons_self
    let db₁ := db.resolveProblem now claim now .authoritative_negative
      s!"problem.get:complete:{claim.monitoring_sync_operation_id}" p
    have hstep : omitProblem now claim db p = .ok db₁ := resolveProblem_eq h hp
    have hmoves : Moves db db₁ := resolveProblem_moves now claim _ _ _ hp (hact p List.mem_cons_self)
    have hne : ∀ r ∈ rows, r.problem_id ≠ p.problem_id := fun r hr hid => hpn (hid ▸ List.mem_map_of_mem hr)
    have hmem₁ : ∀ r ∈ rows, r ∈ db₁.problems := fun r hr =>
      mem_updateWhere_of_not (hmem r (List.mem_cons_of_mem p hr)) (by simpa using hne r hr)
    obtain ⟨db', hfold, hmoves', hb, hprob⟩ :=
      ih (hmoves.sound h) hmem₁ (fun r hr => hact r (List.mem_cons_of_mem p hr)) hnd
    refine ⟨db', foldlM_cons_ok.2 ⟨db₁, hstep, hfold⟩, hmoves.trans hmoves', hb, ?_⟩
    rw [hprob]
    show updateWhere _ _ (updateWhere _ _ db.problems) = _
    rw [updateWhere, updateWhere, updateWhere, List.map_map]
    refine List.map_congr_left fun r hr => ?_
    by_cases hrp : r = p
    · subst hrp
      have hout : resolvedRow claim now (r.projection_revision + 1) r ∉ rows := fun hin => hne _ hin rfl
      simp [hout, omittedRow]
    · have hid : r.problem_id ≠ p.problem_id := fun hid => hrp (eq_of_key h.problem_ids hr hp hid)
      simp [hid, hrp]

theorem ProblemStatus.state_eq_active {s : ProblemStatus} : s.state = .active ↔ s = .active := by
  cases s <;> simp [ProblemStatus.state]

theorem MonitoringProblem.activeIn_iff : p.activeIn claim = true ↔
    p.monitoring_source_id = claim.monitoring_source_id ∧
      p.source_instance_generation = claim.source_instance_generation ∧ p.status = .active := by
  simp [MonitoringProblem.activeIn, ProblemStatus.state_eq_active]

/-- The omission of a complete snapshot resolves exactly the rows that it fetched. -/
theorem apply_omission_complete (h : db.Sound) (seen : List EventId) :
    ∃ db', _apply_omission now claim true seen db = .ok db' ∧ Moves db db' ∧ db'.bindings = db.bindings ∧
      db'.problems = updateWhere (fun p => p ∈ db.omitted claim seen) (omittedRow now claim) db.problems := by
  refine omitProblem_all now claim h (fun p hp => List.mem_of_mem_filter hp) (fun p hp => ?_)
    (h.problem_ids.sublist (List.filter_sublist.map _))
  have := List.of_mem_filter hp
  simp only [decide_eq_true_eq, MonitoringProblem.activeIn_iff] at this
  exact this.1.2.2

theorem apply_omission_moves {complete_snapshot : Bool} {seen : List EventId} {db' : MonitoringDb} (h : db.Sound)
    (hok : _apply_omission now claim complete_snapshot seen db = .ok db') : Moves db db' := by
  cases complete_snapshot with
  | true =>
    obtain ⟨db₁, hok₁, hmoves, -⟩ := apply_omission_complete now claim h seen
    rw [hok₁] at hok
    rw [← Except.ok.inj hok]
    exact hmoves
  | false =>
    rw [← Except.ok.inj hok]
    refine .single (.touched (fun _ => rfl) fun r hr hq => ?_)
    simp only [MonitoringDb.unreturned, decide_eq_true_eq, MonitoringProblem.activeIn_iff] at hq
    exact ⟨hq.1.2.2, hq.1.2.2, rfl, le_rfl⟩

theorem reconcile_moves {result : ProblemStateResult} {raw_rows : List ZabbixProblemEvidence}
    {recoveries : List ZabbixRecoveryEvidence} {db' : MonitoringDb} (h : db.Sound)
    (hok : reconcile now claim result raw_rows recoveries db = .ok db') : Moves db db' := by
  obtain ⟨⟨db₁, seen⟩, hok₁, hok⟩ := bind_ok_iff.1 hok
  obtain ⟨db₂, hok₂, hok⟩ := bind_ok_iff.1 hok
  have hm₁ : Moves db db₁ := by
    refine foldlM_invariant (P := fun s => Moves db s.1) (fun s prob s' hs hstep => ?_) ?_ hok₁
    · exact ReflTransGen.trans hs (persistProblem_moves now claim (Moves.sound hs h) hstep)
    · exact ReflTransGen.refl
  have hm₂ : Moves db db₂ := foldlM_invariant (P := Moves db)
    (fun s a s' hs ha => hs.trans (persistRecovery_moves now claim (hs.sound h) ha)) hm₁ hok₂
  exact hm₂.trans (apply_omission_moves now claim (hm₂.sound h) hok)

end Passes

/-! ### Completions and runs -/

variable {result : ProblemStateResult} {recoveries : List ZabbixRecoveryEvidence}

/-- A completion that commits had its fence, and applied the result. -/
theorem complete_ok {now : Timestamp} {claim : ProblemStateClaim} {raw_rows : List ZabbixProblemEvidence}
    {db db' : MonitoringDb} :
    complete_problem_state now claim result raw_rows recoveries db = .ok db' ↔
      db.fence claim = true ∧ ∃ db₁, applyResult now claim result raw_rows recoveries db = .ok db₁ ∧
        enqueueInventory claim result (closeOperation now claim result db₁) = db' := by
  rw [complete_problem_state]
  by_cases hf : db.fence claim = true
  · rw [if_pos hf, map_ok_iff]
    simp only [hf, true_and]
  · rw [if_neg hf]
    simp [hf]

theorem recordSnapshot_moves (claim : ProblemStateClaim) (result : ProblemStateResult)
    (recoveries : List ZabbixRecoveryEvidence) (db : MonitoringDb) :
    Moves db (recordSnapshot claim result recoveries db) := by
  unfold recordSnapshot
  split_ifs
  · exact .refl
  · exact .single (.aside rfl rfl rfl rfl (Nat.le_succ _))

theorem closeOperation_moves (now : Timestamp) (claim : ProblemStateClaim) (result : ProblemStateResult)
    (db : MonitoringDb) : Moves db (closeOperation now claim result db) :=
  .single (.aside rfl rfl rfl rfl le_rfl)

theorem enqueueInventory_moves (claim : ProblemStateClaim) (result : ProblemStateResult) (db : MonitoringDb) :
    Moves db (enqueueInventory claim result db) := by
  unfold enqueueInventory
  split_ifs
  · exact .single (.aside rfl rfl rfl rfl (Nat.le_succ _))
  · exact .refl

theorem complete_moves {now : Timestamp} {claim : ProblemStateClaim} {raw_rows : List ZabbixProblemEvidence}
    {db db' : MonitoringDb} (h : db.Sound)
    (hok : complete_problem_state now claim result raw_rows recoveries db = .ok db') : Moves db db' := by
  obtain ⟨-, db₁, hok₁, rfl⟩ := complete_ok.1 hok
  have hm : Moves db db₁ := by
    unfold applyResult at hok₁
    split_ifs at hok₁
    · obtain ⟨db₂, hrec, rfl⟩ := map_ok_iff.1 hok₁
      exact (reconcile_moves now claim h hrec).trans (recordSnapshot_moves claim result recoveries db₂)
    · rw [← Except.ok.inj hok₁]
      exact .refl
  exact (hm.trans (closeOperation_moves now claim result db₁)).trans (enqueueInventory_moves claim result _)

theorem claim_moves {now : Timestamp} {op_id token : String} {db : MonitoringDb} {c : ProblemStateClaim × MonitoringDb}
    (hok : claim_problem_state now op_id token db = .ok c) : Moves db c.2 := by
  unfold claim_problem_state at hok
  split at hok
  · cases hok
  · split_ifs at hok
    rw [← Except.ok.inj hok]
    exact .single (.aside rfl rfl rfl rfl le_rfl)

theorem orRollback_moves {db : MonitoringDb} {r : Except String MonitoringDb}
    (h : ∀ db', r = .ok db' → Moves db db') : Moves db (db.orRollback r) := by
  cases r with
  | ok db' => exact h db' rfl
  | error e => exact .refl

theorem step_moves {db : MonitoringDb} (h : db.Sound) (a : Action) : Moves db (db.step a) := by
  cases a with
  | claim now op_id token =>
    refine orRollback_moves fun db' hok => ?_
    obtain ⟨c, hc, rfl⟩ := map_ok_iff.1 hok
    exact claim_moves hc
  | complete now claim result raw_rows recoveries => exact orRollback_moves fun db' hok => complete_moves h hok
  | surroundings s => exact .single (.aside rfl rfl rfl rfl le_rfl)

theorem MonitoringDb.exec_append (bridge : BridgeVersion) (run : List Action) (a : Action) :
    exec bridge (run ++ [a]) = (exec bridge run).step a := by
  simp [exec]

theorem exec_moves (bridge : BridgeVersion) (run : List Action) :
    Moves (.empty bridge) (MonitoringDb.exec bridge run) := by
  induction run using List.reverseRecOn with
  | nil => exact .refl
  | append_singleton run a ih =>
    rw [MonitoringDb.exec_append]
    exact ih.trans (step_moves (ih.sound (MonitoringDb.sound_empty bridge)) a)

theorem exec_sound (bridge : BridgeVersion) (run : List Action) : (MonitoringDb.exec bridge run).Sound :=
  (exec_moves bridge run).sound (MonitoringDb.sound_empty bridge)

/-- **Key result.** Between any two points of a run, problems only go forward. -/
theorem problems_go_forward (bridge : BridgeVersion) (run run' : List Action) :
    Evolves (MonitoringDb.exec bridge run) (MonitoringDb.exec bridge (run ++ run')) := by
  induction run' using List.reverseRecOn with
  | nil =>
    rw [List.append_nil]
    exact .of_eq rfl rfl le_rfl (exec_sound bridge run)
  | append_singleton run' a ih =>
    have hsound := exec_sound bridge (run ++ run')
    rw [← List.append_assoc, MonitoringDb.exec_append]
    exact ih.trans ((step_moves hsound a).evolves hsound) ((step_moves hsound a).sound hsound)

end JLMirror.Monitoring
