import JLMirror.Itsm.Lifecycle

/-!
# Creating an incident again

A client that lost the answer of `g10_create_incident` calls it again under the same logical
action. The function looks at the alert before it looks for the logical action, so the answer
depends on what became of the alert; and it compares the hash of the joined fields, not the fields.

## The model

`Idempotent` is what is asked of a later call: the recorded incident if the content is the same,
the conflict if it is not. A call that raises leaves the tables as they are.

## What is proved

* `Created` — the logical action has its one incident; `Created.foldl`: for ever.
* `create_again` — what a later call answers, in every later state.
* `late_replay_refused` — the replay after the alert was resolved.

**Key result** (`creation_idempotent_iff`): a later call is answered as asked exactly when its
arguments pass the checks, its alert is active at that moment, and its content, if it is another,
also joins to another text.

## Honest scope

`md5` is any injective function. The state before the first creation is arbitrary.
-/

namespace JLMirror.Itsm

open JLMirror.Foundations JLMirror.Alerting

/-- The logical action has an incident, with the id and the content it was created with. -/
structure Created (md5 : String → String) (tenant_id logical_action_id : String) (c : IncidentContent) (db : ItsmDb) :
    Prop where
  exists_row : ∃ i ∈ db.incidents, i.isOf tenant_id logical_action_id
  content : ∀ i ∈ db.incidents, i.isOf tenant_id logical_action_id →
    i.incident_id = incidentId md5 tenant_id logical_action_id ∧ i.content_hash = md5 c.joined

variable {md5 : String → String} {t la : String} {c : IncidentContent} {snapshot : AuthoritySnapshot} {db : ItsmDb}

/-- A first creation creates. -/
theorem created_of_first {now : ℕ} {id : String} {db' : ItsmDb}
    (h : g10_create_incident md5 now t c la snapshot db = .ok (⟨id, false⟩, db')) :
    id = incidentId md5 t la ∧ Created md5 t la c db' := by
  obtain ⟨i, -, -, -, hreply, -⟩ | ⟨hunused, -, -, hreply, rfl⟩ := g10_create_incident_ok h
  · cases hreply
  · obtain ⟨rfl, -⟩ := IncidentReply.mk.inj hreply
    refine ⟨rfl, ⟨_, List.mem_append_right _ (List.mem_singleton_self _), rfl, rfl⟩, fun i hi his => ?_⟩
    rcases List.mem_append.1 hi with hi | hi
    · exact absurd his (hunused i hi)
    · obtain rfl := List.mem_singleton.1 hi
      exact ⟨rfl, rfl⟩

/-- No move takes the incident away or gives its logical action to another one. -/
theorem Created.move {db' : ItsmDb} (h : Created md5 t la c db) (hmove : LifecycleMove db db') :
    Created md5 t la c db' := by
  obtain ⟨⟨i, hi, his⟩, hcontent⟩ := h
  cases hmove with
  | keeps hrows => exact ⟨⟨i, hrows ▸ hi, his⟩, hrows ▸ hcontent⟩
  | opens row _ hunused _ _ hrows =>
    refine ⟨⟨i, hrows ▸ List.mem_append_left _ hi, his⟩, fun j hj hjs => ?_⟩
    rcases List.mem_append.1 (hrows ▸ hj) with hj | hj
    · exact hcontent j hj hjs
    · -- the new row would be of the logical action of `i`
      obtain rfl := List.mem_singleton.1 hj
      obtain ⟨rfl, rfl⟩ := hjs
      exact absurd his (hunused i hi)
  | moves _ x _ _ _ _ _ hrows =>
    refine ⟨?_, fun j hj hjs => ?_⟩
    · refine ⟨_, hrows ▸ mem_updateWhere.2 ⟨i, hi, rfl⟩, ?_⟩
      split_ifs <;> exact his
    · rw [hrows] at hj
      obtain ⟨j', hj', rfl⟩ := mem_updateWhere.1 hj
      split_ifs at hjs ⊢ <;> exact hcontent j' hj' hjs
  | assigns _ _ _ hrows => exact ⟨⟨i, hrows ▸ hi, his⟩, hrows ▸ hcontent⟩

theorem Created.foldl {md5 : String → String} {t la : String} {c : IncidentContent} {db : ItsmDb}
    (h : Created md5 t la c db) (run : List ItsmAction) : Created md5 t la c (run.foldl (ItsmDb.step md5) db) := by
  induction run generalizing db with
  | nil => exact h
  | cons a run ih => exact ih (h.move (step_lifecycle md5 db a))

/-- What a later call under the logical action answers. -/
theorem create_again {now : ℕ} {c' : IncidentContent} (h : Created md5 t la c db)
    (hauthority : g10_validate_authority t c'.actor_principal_id snapshot = true) :
    g10_create_incident md5 now t c' la snapshot db =
      if c'.valid la = false then .error .incident_input_invalid
      else if alertActive t c'.alert_id db = false then .error .active_alert_required
      else if md5 c.joined = md5 c'.joined then .ok (⟨incidentId md5 t la, true⟩, db)
      else .error .incident_equivalence_conflict := by
  obtain ⟨⟨i, hi, his⟩, hcontent⟩ := h
  obtain ⟨j, hfind⟩ : ∃ j, db.incidents.find? (fun i => i.tenant_id = t ∧ i.logical_action_id = la) = some j := by
    rw [← Option.isSome_iff_exists, List.find?_isSome]
    exact ⟨i, hi, decide_eq_true his⟩
  have hjs : j.isOf t la := by simpa [Incident.isOf] using List.find?_some hfind
  obtain ⟨hid, hhash⟩ := hcontent j (List.mem_of_find?_eq_some hfind) hjs
  unfold g10_create_incident
  simp only [hauthority, hfind, hid, hhash]
  cases hvalid : c'.valid la with
  | false => rfl
  | true =>
    cases hactive : alertActive t c'.alert_id db with
    | false => rfl
    | true =>
      by_cases hsame : md5 c.joined = md5 c'.joined
      · simp only [hsame, decide_true]
        rfl
      · simp only [hsame, decide_false]
        rfl

/-- What is asked of a later call: the recorded incident for the same content, the conflict for any
other. -/
def Idempotent (md5 : String → String) (tenant_id logical_action_id incident_id : String) (first : IncidentContent)
    (now : ℕ) (c : IncidentContent) (snapshot : AuthoritySnapshot) (db : ItsmDb) : Prop :=
  g10_create_incident md5 now tenant_id c logical_action_id snapshot db =
    if c = first then .ok (⟨incident_id, true⟩, db) else .error .incident_equivalence_conflict

/-- **Incident creation.** After a first creation a later call under its logical action is answered as asked
exactly when its arguments pass the checks, its alert is active at that moment, and another
content joins to another text. -/
theorem creation_idempotent_iff (md5 : String → String) (hmd5 : Function.Injective md5) {now : ℕ} {t la id : String}
    {first : IncidentContent} {snapshot : AuthoritySnapshot} {db db' : ItsmDb}
    (hfirst : g10_create_incident md5 now t first la snapshot db = .ok (⟨id, false⟩, db')) (post : List ItsmAction)
    (now' : ℕ) (c : IncidentContent) (snapshot' : AuthoritySnapshot)
    (hauthority : g10_validate_authority t c.actor_principal_id snapshot' = true) :
    Idempotent md5 t la id first now' c snapshot' (post.foldl (ItsmDb.step md5) db') ↔
      c.valid la = true ∧ alertActive t c.alert_id (post.foldl (ItsmDb.step md5) db') = true ∧
        (c.joined = first.joined → c = first) := by
  obtain ⟨rfl, hcreated⟩ := created_of_first hfirst
  rw [Idempotent, create_again (hcreated.foldl post) hauthority]
  cases hvalid : c.valid la with
  | false => by_cases hsame : c = first <;> simp [hsame]
  | true =>
    cases hactive : alertActive t c.alert_id (post.foldl (ItsmDb.step md5) db') with
    | false => by_cases hsame : c = first <;> simp [hsame]
    | true =>
      have hjoined : md5 first.joined = md5 c.joined ↔ c.joined = first.joined := hmd5.eq_iff.trans eq_comm
      by_cases hsame : c = first
      · subst hsame
        simp
      · by_cases h : c.joined = first.joined <;> simp [hjoined, hsame, h]

/-! ### The late replay -/

/-- The law of the claim: every later call is answered as asked. -/
def CreationLaw (md5 : String → String) : Prop :=
  ∀ pre now t la id first snapshot db',
    g10_create_incident md5 now t first la snapshot (ItsmDb.exec md5 pre) = .ok (⟨id, false⟩, db') →
    ∀ (post : List ItsmAction) now' c snapshot', g10_validate_authority t c.actor_principal_id snapshot' = true →
      Idempotent md5 t la id first now' c snapshot' (post.foldl (ItsmDb.step md5) db')

/-- An operator opens an incident for an alert. -/
def diskFull : IncidentContent := ⟨"alert", "Disk full", none, "operator"⟩

/-- The authority of the operator. -/
def operatorSnapshot : AuthoritySnapshot :=
  ⟨true, some "tenant", some "operator", some "alerting:operate", some "g10.itsm-incident@1"⟩

/-- The tables with the alert in a state. -/
def withAlert (s : LifecycleState) : List AlertLifecycle := [⟨"tenant", "alert", s⟩]

/-- The tables after the operator's call. -/
def diskFullDb : ItsmDb :=
  ItsmDb.exec id [.alerts (withAlert .active), .create 0 "tenant" diskFull "la" operatorSnapshot]

theorem diskFull_created :
    g10_create_incident id 0 "tenant" diskFull "la" operatorSnapshot (ItsmDb.exec id [.alerts (withAlert .active)]) =
      .ok (⟨incidentId id "tenant" "la", false⟩, diskFullDb) := rfl

theorem while_active : Idempotent id "tenant" "la" (incidentId id "tenant" "la") diskFull 1 diskFull operatorSnapshot
      ([].foldl (ItsmDb.step id) diskFullDb) ↔ diskFull.valid "la" = true ∧
        alertActive "tenant" "alert" ([].foldl (ItsmDb.step id) diskFullDb) = true ∧
          (diskFull.joined = diskFull.joined → diskFull = diskFull) :=
  creation_idempotent_iff id Function.injective_id diskFull_created [] 1 diskFull operatorSnapshot rfl

/-- The alert is resolved, and the operator's client asks again: it is told that the alert must be active. -/
theorem late_replay_refused : Function.Injective (id : String → String) ∧ ¬CreationLaw id := by
  refine ⟨Function.injective_id, fun h => ?_⟩
  have hlate := h _ _ _ _ _ _ _ _ diskFull_created [.alerts (withAlert .resolved)] 1 diskFull operatorSnapshot rfl
  have hrefused : g10_create_incident id 1 "tenant" diskFull "la" operatorSnapshot
      ([ItsmAction.alerts (withAlert .resolved)].foldl (ItsmDb.step id) diskFullDb) = .error .active_alert_required := rfl
  rw [Idempotent, hrefused, if_pos rfl] at hlate
  cases hlate

-- an empty description is taken for a missing one, and a separator in a field moves its border
example : IncidentContent.joined ⟨"alert", "Disk full", some "", "operator"⟩ = diskFull.joined := by decide
example : IncidentContent.joined ⟨"alert", "Disk", some ("full" ++ unitSeparator), "operator"⟩ =
    IncidentContent.joined ⟨"alert", "Disk" ++ unitSeparator ++ "full", none, "operator"⟩ := by decide

end JLMirror.Itsm
