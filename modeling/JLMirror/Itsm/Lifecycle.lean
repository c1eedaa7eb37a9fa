import JLMirror.Itsm.Sync

/-!
# The lifecycle of an incident

The state column of an incident and the logs of its transitions and assignments, under every
sequence of calls.

## The model

A run is a list of calls in the order their transactions take the lock of the incident: a
transition holds the row of the incident, an assignment its advisory lock, so calls of one kind on
one incident follow each other, and calls of the two kinds write different tables. What the calls
can do to the three tables is said once, in `LifecycleMove`.

## What is proved

* `LifecycleInv` — the invariant: the log of every incident is a path from `open` to its state.
* `step_lifecycle` — every call is one of the four moves; `exec_lifecycle` — the invariant holds
  after every run.
* `LifecycleMove.grows` — the logs only grow, and a closed incident stays as it is.

**Key result** (`lifecycle_is_path`): paths, single application, replay, one open assignment, and
`closed` as the last state, for every run.
-/

namespace JLMirror.Itsm

open JLMirror.Foundations JLMirror.Alerting

/-! ### Paths -/

/-- The edges that the table and the function allow. -/
def allowedEdge : IncidentState → IncidentState → Bool
  | .opened, .in_progress | .opened, .resolved | .in_progress, .resolved | .resolved, .closed => true
  | _, _ => false

/-- The transitions lead from a state to a state along allowed edges. -/
def IsPath : IncidentState → List IncidentTransition → IncidentState → Prop
  | s, [], s' => s = s'
  | s, x :: xs, s' => x.from_state = s ∧ allowedEdge x.from_state x.to_state = true ∧ IsPath x.to_state xs s'

variable {s : IncidentState} {target : String}

theorem nextState_allowed {s' : IncidentState} (h : nextState s target = some s') : allowedEdge s s' = true := by
  unfold nextState at h
  split at h <;> first | (cases h; rfl) | cases h

theorem nextState_text {s' : IncidentState} (h : nextState s target = some s') : s'.text = target := by
  unfold nextState at h
  split at h <;> first | (cases h; rfl) | cases h

variable {x : IncidentTransition}

theorem IsPath.extend {m : IncidentState} {xs : List IncidentTransition} (h : IsPath s xs m)
    (hfrom : x.from_state = m) (hedge : allowedEdge x.from_state x.to_state = true) :
    IsPath s (xs ++ [x]) x.to_state := by
  induction xs generalizing s with
  | nil => exact ⟨hfrom.trans h.symm, hedge, rfl⟩
  | cons y ys ih => exact ⟨h.1, h.2.1, ih h.2.2⟩

/-! ### What a call can do -/

/-- The primary key of an incident. -/
def Incident.key (i : Incident) : String × String := (i.tenant_id, i.incident_id)

/-- The incident of a transition. -/
def IncidentTransition.owner (x : IncidentTransition) : String × String := (x.tenant_id, x.incident_id)

/-- A transition is applied under its logical action. -/
def IncidentTransition.action (x : IncidentTransition) : (String × String) × String := (x.owner, x.logical_action_id)

/-- The incident of an assignment. -/
def IncidentAssignment.owner (x : IncidentAssignment) : String × String := (x.tenant_id, x.incident_id)

/-- An assignment is made under its logical action. -/
def IncidentAssignment.action (x : IncidentAssignment) : (String × String) × String := (x.owner, x.logical_action_id)

/-- What of an assignment never changes. -/
def IncidentAssignment.fixed (x : IncidentAssignment) : ((String × String) × String) × String × String :=
  (x.action, x.incident_assignment_id, x.assignee_principal_id)

/-- The assignments of a list that are in effect. -/
def openAssignments (rows : List IncidentAssignment) : List IncidentAssignment :=
  rows.filter fun x => x.effective_until.isNone

/-- What a call can do to the incidents, their transitions and their assignments. -/
inductive LifecycleMove (db db' : ItsmDb) : Prop where
  | keeps (incidents : db'.incidents = db.incidents) (transitions : db'.transitions = db.transitions)
      (assignments : db'.assignments = db.assignments)
  | opens (row : Incident) (fresh : ∀ i ∈ db.incidents, i.key ≠ row.key)
      (unused : ∀ i ∈ db.incidents, ¬i.isOf row.tenant_id row.logical_action_id) (state : row.lifecycle_state = .opened)
      (dispatch : ∃ o ∈ db'.outbox, (o.tenant_id, o.incident_id) = row.key)
      (incidents : db'.incidents = db.incidents ++ [row]) (transitions : db'.transitions = db.transitions)
      (assignments : db'.assignments = db.assignments)
  | moves (i : Incident) (x : IncidentTransition) (mem : i ∈ db.incidents) (owner : i.key = x.owner)
      (source : x.from_state = i.lifecycle_state) (edge : allowedEdge x.from_state x.to_state = true)
      (fresh : ∀ y ∈ db.transitions, y.action ≠ x.action)
      (incidents : db'.incidents = updateWhere (isIncident x.tenant_id x.incident_id)
        (fun i => { i with lifecycle_state := x.to_state }) db.incidents)
      (transitions : db'.transitions = db.transitions ++ [x]) (assignments : db'.assignments = db.assignments)
  | assigns (x : IncidentAssignment) (now : ℕ) (fresh : ∀ y ∈ db.assignments, y.action ≠ x.action)
      (incidents : db'.incidents = db.incidents) (transitions : db'.transitions = db.transitions)
      (assignments : db'.assignments = endCurrent now x.tenant_id x.incident_id db.assignments ++ [x])

theorem LifecycleMove.same (db : ItsmDb) : LifecycleMove db db := .keeps rfl rfl rfl

variable {md5 : String → String} {now : ℕ} {t la : String} {snapshot : AuthoritySnapshot} {db db' : ItsmDb}

theorem create_move {c : IncidentContent} {r : IncidentReply}
    (h : g10_create_incident md5 now t c la snapshot db = .ok (r, db')) : LifecycleMove db db' := by
  obtain ⟨_, -, -, -, -, rfl⟩ | ⟨hunused, hfresh, -, -, rfl⟩ := g10_create_incident_ok h
  · exact .same db'
  · refine .opens (newIncident md5 t c la) (fun i hi hkey => hfresh i hi ?_) hunused rfl ?_ rfl rfl rfl
    · exact ⟨congrArg Prod.fst hkey, congrArg Prod.snd hkey⟩
    · exact ⟨_, List.mem_append_right _ (List.mem_singleton_self _), rfl⟩

variable {inc actor : String}

theorem transition_move {r : TransitionReply}
    (h : g10_transition_incident md5 t inc target actor la snapshot db = .ok (r, db')) : LifecycleMove db db' := by
  obtain ⟨_, -, -, -, -, rfl⟩ | ⟨i, hi, x, hisi, hnext, hfrom, rfl, rfl, rfl, hfresh, -, rfl⟩ :=
    g10_transition_incident_ok h
  · exact .same db'
  · obtain ⟨ht, hinc⟩ := isIncident_iff.1 hisi
    refine .moves i x hi (Prod.ext ht hinc) hfrom (hfrom ▸ nextState_allowed hnext) (fun y hy hkey => ?_) rfl rfl rfl
    have howner : y.owner = x.owner := congrArg Prod.fst hkey
    exact hfresh y (mem_transitionsOf.2 ⟨hy, congrArg Prod.fst howner, congrArg Prod.snd howner⟩)
      (congrArg Prod.snd hkey)

variable {assignee : String} {r : AssignmentReply}

theorem assign_move (h : g10_assign_incident md5 now t inc assignee actor la snapshot db = .ok (r, db')) :
    LifecycleMove db db' := by
  obtain ⟨_, -, -, -, -, rfl⟩ | ⟨x, -, rfl, rfl, rfl, -, -, hfresh, -, rfl⟩ := g10_assign_incident_ok h
  · exact .same db'
  · refine .assigns x now (fun y hy hkey => ?_) rfl rfl rfl
    have howner : y.owner = x.owner := congrArg Prod.fst hkey
    exact hfresh y (mem_assignmentsOf.2 ⟨hy, congrArg Prod.fst howner, congrArg Prod.snd howner⟩)
      (congrArg Prod.snd hkey)

theorem after_move {α : Type} {x : Except G10Error (α × ItsmDb)}
    (h : ∀ r db', x = .ok (r, db') → LifecycleMove db db') : LifecycleMove db (db.after x) := by
  cases x with
  | error e => exact .same db
  | ok p => exact h p.1 p.2 rfl

/-- Every call is one of the moves. -/
theorem step_lifecycle (md5 : String → String) (db : ItsmDb) (a : ItsmAction) : LifecycleMove db (db.step md5 a) := by
  cases a with
  | create => exact after_move fun _ _ h => create_move h
  | transition => exact after_move fun _ _ h => transition_move h
  | assign => exact after_move fun _ _ h => assign_move h
  | claim =>
    refine after_move fun _ db' h => ?_
    obtain ⟨_, -, ⟨-, -, rfl⟩ | ⟨-, rfl⟩ | ⟨-, -, rfl⟩⟩ := g10_claim_sync_ok h <;> exact .keeps rfl rfl rfl
  | complete =>
    refine after_move fun _ db' h => ?_
    obtain ⟨-, _, -, ⟨-, -, rfl⟩ | ⟨-, -, _, rfl, -⟩⟩ := g10_complete_sync_ok h <;> exact .keeps rfl rfl rfl
  | retry =>
    refine after_move fun _ db' h => ?_
    obtain rfl | ⟨_, -, -, -, -, -, rfl⟩ := g10_schedule_sync_retry_ok h <;> exact .keeps rfl rfl rfl
  | reconcile =>
    refine after_move fun _ db' h => ?_
    obtain ⟨_, -, ⟨-, rfl⟩ | ⟨-, rfl⟩⟩ := g10_reconcile_sync_ok h <;> exact .keeps rfl rfl rfl
  | alerts => exact .keeps rfl rfl rfl

/-! ### The invariant -/

/-- The log of every incident is a path to its state, and no row stands twice. -/
structure LifecycleInv (db : ItsmDb) : Prop where
  incidents : (db.incidents.map Incident.key).Nodup
  /-- The foreign key of the transitions. -/
  owned : ∀ x ∈ db.transitions, ∃ i ∈ db.incidents, i.key = x.owner
  path : ∀ i ∈ db.incidents, IsPath .opened (transitionsOf i.tenant_id i.incident_id db) i.lifecycle_state
  transitions : (db.transitions.map IncidentTransition.action).Nodup
  assignments : (db.assignments.map IncidentAssignment.action).Nodup
  /-- `g10_one_current_assignee`. -/
  current : ((openAssignments db.assignments).map IncidentAssignment.owner).Nodup

theorem empty_lifecycle : LifecycleInv .empty where
  incidents := List.nodup_nil
  owned := fun _ h => absurd h List.not_mem_nil
  path := fun _ h => absurd h List.not_mem_nil
  transitions := List.nodup_nil
  assignments := List.nodup_nil
  current := List.nodup_nil

theorem nodup_map_concat {α κ : Type} {key : α → κ} {rows : List α} {row : α} (h : (rows.map key).Nodup)
    (hnew : ∀ r ∈ rows, key r ≠ key row) : ((rows ++ [row]).map key).Nodup := by
  rw [List.map_append, List.map_singleton, ← List.concat_eq_append]
  refine h.concat fun hmem => ?_
  obtain ⟨r, hr, hkey⟩ := List.mem_map.1 hmem
  exact hnew r hr hkey

theorem transitionsOf_congr (h : db'.transitions = db.transitions) :
    transitionsOf t inc db' = transitionsOf t inc db := by
  rw [transitionsOf, transitionsOf, h]

theorem owner_iff : x.owner = (t, inc) ↔ x.tenant_id = t ∧ x.incident_id = inc := by
  simp [IncidentTransition.owner]

theorem transitionsOf_own (h : db'.transitions = db.transitions ++ [x]) (hx : x.owner = (t, inc)) :
    transitionsOf t inc db' = transitionsOf t inc db ++ [x] := by
  rw [transitionsOf, h, List.filter_append, List.filter_singleton, decide_eq_true (owner_iff.1 hx)]
  rfl

theorem transitionsOf_other (h : db'.transitions = db.transitions ++ [x]) (hx : x.owner ≠ (t, inc)) :
    transitionsOf t inc db' = transitionsOf t inc db := by
  rw [transitionsOf, h, List.filter_append, List.filter_singleton, decide_eq_false fun h => hx (owner_iff.2 h)]
  exact List.append_nil _

/-- Nobody else's assignment is in effect once those in effect are ended. -/
theorem openAssignments_endCurrent {rows : List IncidentAssignment} :
    openAssignments (endCurrent now t inc rows) = (openAssignments rows).filter fun x => decide (x.owner ≠ (t, inc)) := by
  induction rows with
  | nil => rfl
  | cons x rows ih =>
    have ih : List.filter _ (updateWhere _ _ rows) = _ := ih
    cases huntil : x.effective_until with
    | some _ => simp [openAssignments, endCurrent, isCurrentAssignment, huntil, ih]
    | none =>
      by_cases howner : x.owner = (t, inc)
      · have hkey : x.tenant_id = t ∧ x.incident_id = inc := by simpa [IncidentAssignment.owner] using howner
        simp [openAssignments, endCurrent, isCurrentAssignment, huntil, ih, howner, hkey]
      · have hkey : ¬(x.tenant_id = t ∧ x.incident_id = inc) := by simpa [IncidentAssignment.owner] using howner
        simp [openAssignments, endCurrent, isCurrentAssignment, huntil, ih, howner, hkey]

theorem endCurrent_fixed (now : ℕ) (t inc : String) (rows : List IncidentAssignment) :
    (endCurrent now t inc rows).map IncidentAssignment.fixed = rows.map IncidentAssignment.fixed :=
  map_updateWhere (f := fun x : IncidentAssignment => { x with effective_until := some now }) (fun _ => rfl) rows

theorem endCurrent_action (now : ℕ) (t inc : String) (rows : List IncidentAssignment) :
    (endCurrent now t inc rows).map IncidentAssignment.action = rows.map IncidentAssignment.action :=
  map_updateWhere (f := fun x : IncidentAssignment => { x with effective_until := some now }) (fun _ => rfl) rows

/-- Every move keeps the invariant. -/
theorem LifecycleMove.keeps_inv (h : LifecycleMove db db') (hdb : LifecycleInv db) : LifecycleInv db' := by
  obtain ⟨hinc, howned, hpath, htrans, hassign, hcurrent⟩ := hdb
  cases h with
  | keeps hi ht ha =>
    refine ⟨hi ▸ hinc, ?_, fun i h => ?_, ht ▸ htrans, ha ▸ hassign, ha ▸ hcurrent⟩
    · rw [hi, ht]
      exact howned
    · rw [transitionsOf_congr ht]
      exact hpath i (hi ▸ h)
  | opens row hfresh _ hstate _ hi ht ha =>
    refine ⟨hi ▸ nodup_map_concat hinc hfresh, fun x hx => ?_, fun i h => ?_, ht ▸ htrans, ha ▸ hassign, ha ▸ hcurrent⟩
    · obtain ⟨i, h, hkey⟩ := howned x (ht ▸ hx)
      exact ⟨i, hi ▸ List.mem_append_left _ h, hkey⟩
    · rw [transitionsOf_congr ht]
      rcases List.mem_append.1 (hi ▸ h) with h | h
      · exact hpath i h
      · -- a transition of the new incident would have had its incident before
        obtain rfl := List.mem_singleton.1 h
        have hnone : transitionsOf i.tenant_id i.incident_id db = [] := by
          refine List.eq_nil_iff_forall_not_mem.2 fun x hx => ?_
          obtain ⟨hx, hxt, hxi⟩ := mem_transitionsOf.1 hx
          obtain ⟨j, hj, hkey⟩ := howned x hx
          exact hfresh j hj (hkey.trans (Prod.ext hxt hxi))
        rw [hnone, hstate]
        rfl
  | moves i x hmem howner hsource hedge hfresh hi ht ha =>
    have hkeys : db'.incidents.map Incident.key = db.incidents.map Incident.key := by
      rw [hi]
      exact map_updateWhere (f := fun i : Incident => { i with lifecycle_state := x.to_state }) (fun _ => rfl) _
    refine ⟨hkeys ▸ hinc, fun y hy => ?_, fun j hj => ?_, ht ▸ nodup_map_concat htrans hfresh, ha ▸ hassign,
      ha ▸ hcurrent⟩
    · have hold : ∃ j ∈ db.incidents, j.key = y.owner := by
        rcases List.mem_append.1 (ht ▸ hy) with h | h
        · exact howned y h
        · exact ⟨i, hmem, howner.trans (by rw [List.mem_singleton.1 h])⟩
      obtain ⟨j, hj, hkey⟩ := hold
      have hkeymem : y.owner ∈ db'.incidents.map Incident.key := hkeys ▸ List.mem_map.2 ⟨j, hj, hkey⟩
      exact List.mem_map.1 hkeymem
    · rw [hi] at hj
      obtain ⟨i', hi', hj⟩ := mem_updateWhere.1 hj
      cases his : isIncident x.tenant_id x.incident_id i' with
      | false =>
        obtain rfl : i' = j := by simpa [his] using hj
        have hother : x.owner ≠ i'.key := by
          intro hkey
          have hsome : isIncident x.tenant_id x.incident_id i' = true :=
            isIncident_iff.2 ⟨(congrArg Prod.fst hkey).symm, (congrArg Prod.snd hkey).symm⟩
          rw [hsome] at his
          cases his
        rw [transitionsOf_other ht hother]
        exact hpath i' hi'
      | true =>
        obtain rfl : { i' with lifecycle_state := x.to_state } = j := by simpa [his] using hj
        obtain ⟨hxt, hxi⟩ := isIncident_iff.1 his
        have howner' : i'.key = x.owner := Prod.ext hxt hxi
        obtain rfl := eq_of_key hinc hi' hmem (howner'.trans howner.symm)
        change IsPath .opened (transitionsOf i'.tenant_id i'.incident_id db') x.to_state
        rw [transitionsOf_own ht howner'.symm]
        exact (hpath i' hmem).extend hsource hedge
  | assigns x now hfresh hi ht ha =>
    refine ⟨hi ▸ hinc, ?_, fun i h => ?_, ht ▸ htrans, ?_, ?_⟩
    · rw [hi, ht]
      exact howned
    · rw [transitionsOf_congr ht]
      exact hpath i (hi ▸ h)
    · rw [ha]
      refine nodup_map_concat ?_ fun y hy hkey => ?_
      · rw [endCurrent_action]
        exact hassign
      · have hmem : x.action ∈ db.assignments.map IncidentAssignment.action := by
          rw [← endCurrent_action now x.tenant_id x.incident_id]
          exact List.mem_map.2 ⟨y, hy, hkey⟩
        obtain ⟨z, hz, hkey⟩ := List.mem_map.1 hmem
        exact hfresh z hz hkey
    · rw [ha, openAssignments, List.filter_append, List.map_append]
      have hended : (openAssignments (endCurrent now x.tenant_id x.incident_id db.assignments)) = _ :=
        openAssignments_endCurrent
      rw [openAssignments] at hended
      rw [hended]
      refine List.Nodup.append (hcurrent.sublist (List.filter_sublist.map _)) ?_ ?_
      · exact nodup_map_of_length_le_one _ (List.length_filter_le ..)
      · intro k hk hk'
        obtain ⟨y, hy, rfl⟩ := List.mem_map.1 hk
        obtain ⟨z, hz, hkey⟩ := List.mem_map.1 hk'
        obtain rfl := List.mem_singleton.1 (List.mem_of_mem_filter hz)
        have hother : y.owner ≠ (z.tenant_id, z.incident_id) := by simpa using List.of_mem_filter hy
        exact hother hkey.symm

/-! ### What never changes -/

/-- What of the tables stays from a state to a later one. -/
structure Grows (db db' : ItsmDb) : Prop where
  transitions : db.transitions <+: db'.transitions
  assignments : db.assignments.map IncidentAssignment.fixed <+: db'.assignments.map IncidentAssignment.fixed
  incidents : ∀ i ∈ db.incidents, ∃ i' ∈ db'.incidents, i'.key = i.key
  closed : ∀ i ∈ db.incidents, i.lifecycle_state = .closed → i ∈ db'.incidents

theorem Grows.refl (db : ItsmDb) : Grows db db :=
  ⟨List.prefix_rfl, List.prefix_rfl, fun i hi => ⟨i, hi, rfl⟩, fun _ hi _ => hi⟩

theorem Grows.trans {db db' db'' : ItsmDb} (h : Grows db db') (h' : Grows db' db'') : Grows db db'' where
  transitions := h.transitions.trans h'.transitions
  assignments := h.assignments.trans h'.assignments
  incidents := fun i hi => by
    obtain ⟨i', hi', hkey⟩ := h.incidents i hi
    obtain ⟨i'', hi'', hkey'⟩ := h'.incidents i' hi'
    exact ⟨i'', hi'', hkey'.trans hkey⟩
  closed := fun i hi hclosed => h'.closed i (h.closed i hi hclosed) hclosed

theorem allowedEdge_closed (s : IncidentState) : allowedEdge .closed s = false := by
  cases s <;> rfl

/-- A move of a state with the invariant only adds to the logs, and leaves a closed incident alone. -/
theorem LifecycleMove.grows (h : LifecycleMove db db') (hdb : LifecycleInv db) : Grows db db' := by
  cases h with
  | keeps hi ht ha =>
    exact ⟨ht ▸ List.prefix_rfl, ha ▸ List.prefix_rfl, fun i h => ⟨i, hi ▸ h, rfl⟩, fun i h _ => hi ▸ h⟩
  | opens row _ _ _ _ hi ht ha =>
    have hmem : ∀ i ∈ db.incidents, i ∈ db'.incidents := fun i h => hi ▸ List.mem_append_left _ h
    exact ⟨ht ▸ List.prefix_rfl, ha ▸ List.prefix_rfl, fun i h => ⟨i, hmem i h, rfl⟩, fun i h _ => hmem i h⟩
  | moves i x hmem howner hsource hedge hfresh hi ht ha =>
    refine ⟨ht ▸ List.prefix_append _ _, ha ▸ List.prefix_rfl, fun j hj => ?_, fun j hj hclosed => ?_⟩
    · rw [hi]
      refine ⟨_, mem_updateWhere.2 ⟨j, hj, rfl⟩, ?_⟩
      split_ifs <;> rfl
    · rw [hi]
      refine mem_updateWhere_of_not hj (Bool.eq_false_iff.2 fun his => ?_)
      -- the row that moves would be the closed one, and nothing leads out of `closed`
      obtain ⟨hjt, hji⟩ := isIncident_iff.1 his
      have hkey : j.key = i.key := (Prod.ext hjt hji : j.key = x.owner).trans howner.symm
      obtain rfl := eq_of_key hdb.incidents hj hmem hkey
      rw [hsource, hclosed, allowedEdge_closed] at hedge
      cases hedge
  | assigns x now _ hi ht ha =>
    refine ⟨ht ▸ List.prefix_rfl, ?_, fun i h => ⟨i, hi ▸ h, rfl⟩, fun i h _ => hi ▸ h⟩
    rw [ha, List.map_append, endCurrent_fixed]
    exact List.prefix_append _ _

theorem foldl_grows (md5 : String → String) (hdb : LifecycleInv db) (run : List ItsmAction) :
    LifecycleInv (run.foldl (ItsmDb.step md5) db) ∧ Grows db (run.foldl (ItsmDb.step md5) db) := by
  induction run generalizing db with
  | nil => exact ⟨hdb, .refl db⟩
  | cons a run ih =>
    have hmove := step_lifecycle md5 db a
    obtain ⟨hinv, hgrows⟩ := ih (hmove.keeps_inv hdb)
    exact ⟨hinv, (hmove.grows hdb).trans hgrows⟩

theorem exec_lifecycle (md5 : String → String) (run : List ItsmAction) : LifecycleInv (ItsmDb.exec md5 run) :=
  (foldl_grows md5 empty_lifecycle run).1

/-! ### Replays -/

/-- A transition that stands in the log is answered from it. -/
theorem replay_transition (hdb : LifecycleInv db) (hx : x ∈ transitionsOf t inc db) (hla : x.logical_action_id = la)
    (htarget : x.to_state.text = target) (hauthority : g10_validate_authority t actor snapshot = true) :
    g10_transition_incident md5 t inc target actor la snapshot db = .ok (⟨inc, x.to_state, true⟩, db) := by
  obtain ⟨hmem, hxt, hxi⟩ := mem_transitionsOf.1 hx
  obtain ⟨i, hi, hkey⟩ := hdb.owned x hmem
  obtain ⟨i', hfind⟩ : ∃ i', db.incidents.find? (isIncident t inc) = some i' := by
    rw [← Option.isSome_iff_exists, List.find?_isSome]
    exact ⟨i, hi, isIncident_iff.2 ⟨(congrArg Prod.fst hkey).trans hxt, (congrArg Prod.snd hkey).trans hxi⟩⟩
  have hold : db.transitions.find? (fun x => x.tenant_id = t ∧ x.incident_id = inc ∧ x.logical_action_id = la) = some x := by
    subst hxt hxi hla
    rw [find?_of_key hdb.transitions hmem fun y hy => ?_, if_pos (decide_eq_true ⟨rfl, rfl, rfl⟩)]
    obtain ⟨h₁, h₂, h₃⟩ := of_decide_eq_true hy
    exact Prod.ext (Prod.ext h₁ h₂) h₃
  unfold g10_transition_incident
  simp only [hauthority, hfind, hold, decide_eq_true htarget]
  rfl

/-- An assignment that stands in the log is answered from it. -/
theorem replay_assignment (hdb : LifecycleInv db) {x : IncidentAssignment}
    (hx : x ∈ assignmentsOf t inc db.assignments) (hla : x.logical_action_id = la)
    (hassignee : x.assignee_principal_id = assignee) (hincident : ∃ i ∈ db.incidents, i.key = (t, inc))
    (hinput : assignee ≠ "" ∧ la ≠ "") (hauthority : g10_validate_authority t actor snapshot = true) :
    g10_assign_incident md5 now t inc assignee actor la snapshot db = .ok (⟨x.incident_assignment_id, true⟩, db) := by
  obtain ⟨hmem, hxt, hxi⟩ := mem_assignmentsOf.1 hx
  obtain ⟨i, hi, hkey⟩ := hincident
  have hany : db.incidents.any (isIncident t inc) = true :=
    List.any_eq_true.2 ⟨i, hi, isIncident_iff.2 ⟨congrArg Prod.fst hkey, congrArg Prod.snd hkey⟩⟩
  have hold : db.assignments.find? (fun x => x.tenant_id = t ∧ x.incident_id = inc ∧ x.logical_action_id = la) = some x := by
    subst hxt hxi hla
    rw [find?_of_key hdb.assignments hmem fun y hy => ?_, if_pos (decide_eq_true ⟨rfl, rfl, rfl⟩)]
    obtain ⟨h₁, h₂, h₃⟩ := of_decide_eq_true hy
    exact Prod.ext (Prod.ext h₁ h₂) h₃
  unfold g10_assign_incident
  simp only [hauthority, hany, hold, decide_eq_true hinput, decide_eq_true hassignee]
  rfl

/-! ### Every run -/

/-- What holds of the incidents after a run. -/
structure LifecycleLaw (md5 : String → String) (run : List ItsmAction) : Prop where
  /-- The transitions lead from `open` to the state of the incident. -/
  path : ∀ i ∈ (ItsmDb.exec md5 run).incidents,
    IsPath .opened (transitionsOf i.tenant_id i.incident_id (ItsmDb.exec md5 run)) i.lifecycle_state
  /-- The log keeps what it has, in its order. -/
  log : ∀ pre post, run = pre ++ post → (ItsmDb.exec md5 pre).transitions <+: (ItsmDb.exec md5 run).transitions
  transitions_once : ∀ t inc,
    ((transitionsOf t inc (ItsmDb.exec md5 run)).map IncidentTransition.logical_action_id).Nodup
  assignments_once : ∀ t inc,
    ((assignmentsOf t inc (ItsmDb.exec md5 run).assignments).map IncidentAssignment.logical_action_id).Nodup
  /-- One assignment at most is in effect. -/
  current : ∀ t inc, (openAssignments (assignmentsOf t inc (ItsmDb.exec md5 run).assignments)).length ≤ 1
  /-- A transition that succeeded is answered with its target for ever, and made no second time. -/
  transition_replay : ∀ pre post t inc target actor la snapshot r db',
    run = pre ++ .transition t inc target actor la snapshot :: post →
      g10_transition_incident md5 t inc target actor la snapshot (ItsmDb.exec md5 pre) = .ok (r, db') →
      ∀ actor' snapshot', g10_validate_authority t actor' snapshot' = true →
        g10_transition_incident md5 t inc target actor' la snapshot' (ItsmDb.exec md5 run) =
          .ok (⟨inc, r.state, true⟩, ItsmDb.exec md5 run)
  /-- And so is an assignment. -/
  assignment_replay : ∀ pre post now t inc assignee actor la snapshot r db',
    run = pre ++ .assign now t inc assignee actor la snapshot :: post →
      g10_assign_incident md5 now t inc assignee actor la snapshot (ItsmDb.exec md5 pre) = .ok (r, db') →
      ∀ now' actor' snapshot', g10_validate_authority t actor' snapshot' = true →
        g10_assign_incident md5 now' t inc assignee actor' la snapshot' (ItsmDb.exec md5 run) =
          .ok (⟨r.incident_assignment_id, true⟩, ItsmDb.exec md5 run)
  /-- `closed` is never left. -/
  closed : ∀ pre post, run = pre ++ post →
    ∀ i ∈ (ItsmDb.exec md5 pre).incidents, i.lifecycle_state = .closed → i ∈ (ItsmDb.exec md5 run).incidents

theorem exec_append (md5 : String → String) (pre post : List ItsmAction) :
    ItsmDb.exec md5 (pre ++ post) = post.foldl (ItsmDb.step md5) (ItsmDb.exec md5 pre) :=
  List.foldl_append

theorem exec_grows (md5 : String → String) (pre post : List ItsmAction) :
    Grows (ItsmDb.exec md5 pre) (ItsmDb.exec md5 (pre ++ post)) := by
  rw [exec_append]
  exact (foldl_grows md5 (exec_lifecycle md5 pre) post).2

theorem nodup_of_owner {α κ β : Type} {f : α → κ × β} {rows : List α} (h : (rows.map f).Nodup) {k : κ}
    (howner : ∀ x ∈ rows, (f x).1 = k) : (rows.map fun x => (f x).2).Nodup := by
  refine List.Nodup.of_map (fun b => (k, b)) ?_
  rw [List.map_map]
  refine (List.map_congr_left fun x hx => ?_) ▸ h
  exact Prod.ext (howner x hx) rfl

theorem transition_recorded {r : TransitionReply}
    (h : g10_transition_incident md5 t inc target actor la snapshot db = .ok (r, db')) :
    ∃ x ∈ transitionsOf t inc db', x.logical_action_id = la ∧ x.to_state.text = target ∧ x.to_state = r.state := by
  obtain ⟨x, hx, hla, htarget, rfl, rfl⟩ | ⟨i, -, x, -, hnext, -, rfl, rfl, rfl, -, rfl, rfl⟩ :=
    g10_transition_incident_ok h
  · exact ⟨x, hx, hla, htarget, rfl⟩
  · refine ⟨x, mem_transitionsOf.2 ⟨List.mem_append_right _ (List.mem_singleton_self x), rfl, rfl⟩, rfl, ?_, rfl⟩
    exact nextState_text hnext

theorem assignment_recorded (h : g10_assign_incident md5 now t inc assignee actor la snapshot db = .ok (r, db')) :
    ∃ x ∈ assignmentsOf t inc db'.assignments, x.logical_action_id = la ∧ x.assignee_principal_id = assignee ∧
      x.incident_assignment_id = r.incident_assignment_id := by
  obtain ⟨x, hx, hla, hassignee, rfl, rfl⟩ | ⟨x, -, rfl, rfl, rfl, rfl, -, -, rfl, rfl⟩ := g10_assign_incident_ok h
  · exact ⟨x, hx, hla, hassignee, rfl⟩
  · exact ⟨x, mem_assignmentsOf.2 ⟨List.mem_append_right _ (List.mem_singleton_self x), rfl, rfl⟩, rfl, rfl, rfl⟩

theorem assignment_checked (h : g10_assign_incident md5 now t inc assignee actor la snapshot db = .ok (r, db')) :
    (assignee ≠ "" ∧ la ≠ "") ∧ ∃ i ∈ db.incidents, i.key = (t, inc) := by
  obtain ⟨_, -, h⟩ := bind_ok_iff.1 h
  obtain ⟨_, hinput, h⟩ := bind_ok_iff.1 h
  obtain ⟨_, hincident, -⟩ := bind_ok_iff.1 h
  obtain ⟨i, hi, his⟩ := List.any_eq_true.1 (require_ok_iff.1 hincident)
  obtain ⟨ht, hinc⟩ := isIncident_iff.1 his
  exact ⟨of_decide_eq_true (require_ok_iff.1 hinput), i, hi, Prod.ext ht hinc⟩

theorem Grows.assignment (h : Grows db db') {x : IncidentAssignment} (hx : x ∈ assignmentsOf t inc db.assignments) :
    ∃ x' ∈ assignmentsOf t inc db'.assignments, x'.fixed = x.fixed := by
  obtain ⟨hmem, ht, hinc⟩ := mem_assignmentsOf.1 hx
  obtain ⟨x', hx', hfixed⟩ := List.mem_map.1 (h.assignments.subset (List.mem_map_of_mem hmem))
  have howner : x'.owner = x.owner := congrArg (fun k => k.1.1) hfixed
  exact ⟨x', mem_assignmentsOf.2 ⟨hx', (congrArg Prod.fst howner).trans ht, (congrArg Prod.snd howner).trans hinc⟩,
    hfixed⟩

/-- **Incident lifecycles.** After every run the transitions of an incident are a path from `open` to its
state, a logical action was applied once and is answered from the log, one assignment at most is in
effect, and `closed` is never left. -/
theorem lifecycle_is_path (md5 : String → String) (run : List ItsmAction) : LifecycleLaw md5 run where
  path := (exec_lifecycle md5 run).path
  log := by
    rintro pre post rfl
    exact (exec_grows md5 pre post).transitions
  transitions_once := fun t inc =>
    nodup_of_owner (f := IncidentTransition.action) (k := (t, inc))
      ((exec_lifecycle md5 run).transitions.sublist (List.filter_sublist.map _)) fun x hx =>
        owner_iff.2 (mem_transitionsOf.1 hx).2
  assignments_once := fun t inc =>
    nodup_of_owner (f := IncidentAssignment.action) (k := (t, inc))
      ((exec_lifecycle md5 run).assignments.sublist (List.filter_sublist.map _)) fun x hx =>
        Prod.ext (mem_assignmentsOf.1 hx).2.1 (mem_assignmentsOf.1 hx).2.2
  current := fun t inc =>
    length_le_one_of_key (f := IncidentAssignment.owner) (k := (t, inc))
      ((exec_lifecycle md5 run).current.sublist ((List.filter_sublist.filter _).map _)) fun x hx => by
        obtain ⟨-, ht, hinc⟩ := mem_assignmentsOf.1 (List.mem_of_mem_filter hx)
        exact Prod.ext ht hinc
  transition_replay := by
    rintro pre post t inc target actor la snapshot r db' rfl hcall actor' snapshot' hauthority
    obtain ⟨x, hx, hla, htarget, hstate⟩ := transition_recorded hcall
    have hnext : ItsmDb.exec md5 (pre ++ [.transition t inc target actor la snapshot]) = db' := by
      rw [exec_append, List.foldl_cons, List.foldl_nil, ItsmDb.step, hcall, ItsmDb.after]
    have hgrows := exec_grows md5 (pre ++ [.transition t inc target actor la snapshot]) post
    rw [List.append_assoc, List.singleton_append, hnext] at hgrows
    obtain ⟨hx, howner⟩ := mem_transitionsOf.1 hx
    rw [← hstate]
    exact replay_transition (exec_lifecycle md5 _) (mem_transitionsOf.2 ⟨hgrows.transitions.subset hx, howner⟩) hla
      htarget hauthority
  assignment_replay := by
    rintro pre post now t inc assignee actor la snapshot r db' rfl hcall now' actor' snapshot' hauthority
    obtain ⟨x, hx, hla, hassignee, hid⟩ := assignment_recorded hcall
    obtain ⟨hinput, i, hi, hkey⟩ := assignment_checked hcall
    have hnext : ItsmDb.exec md5 (pre ++ [.assign now t inc assignee actor la snapshot]) = db' := by
      rw [exec_append, List.foldl_cons, List.foldl_nil, ItsmDb.step, hcall, ItsmDb.after]
    have hgrows := exec_grows md5 (pre ++ [.assign now t inc assignee actor la snapshot]) post
    rw [List.append_assoc, List.singleton_append, hnext] at hgrows
    obtain ⟨x', hx', hfixed⟩ := hgrows.assignment hx
    obtain ⟨i', hi', hkey'⟩ := (exec_grows md5 pre _).incidents i hi
    have hla' : x'.logical_action_id = la := (congrArg (fun k => k.1.2) hfixed).trans hla
    have hassignee' : x'.assignee_principal_id = assignee := (congrArg (fun k => k.2.2) hfixed).trans hassignee
    have hid' : x'.incident_assignment_id = r.incident_assignment_id := (congrArg (fun k => k.2.1) hfixed).trans hid
    rw [← hid']
    exact replay_assignment (exec_lifecycle md5 _) hx' hla' hassignee' ⟨i', hi', hkey'.trans hkey⟩ hinput hauthority
  closed := by
    rintro pre post rfl i hi hclosed
    exact (exec_grows md5 pre post).closed i hi hclosed

end JLMirror.Itsm
