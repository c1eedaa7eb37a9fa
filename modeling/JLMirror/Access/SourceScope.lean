import JLMirror.Access.MonitoringReads

/-!
# Reads of one source

The endpoints whose path names a source look for its rows by the tenant and the source, and for what belongs
to those rows by their keys.

## What is proved

* One lemma for each query: on the part of some sources it finds for a source of the part what it finds on all
  the tables. The joins by a key need that a reference stays within a source.
* **Key result** (`answer_restrict`): an endpoint whose path names a source answers from the rows of that source.
-/

namespace JLMirror.Access

section Restrict

variable {tenant_id source_id : String} {sources : List String} {db : MonitoringDb}

theorem sourceOf_restrict {r : OwnedRow} (hr : r.within tenant_id sources = true) :
    (db.restrict tenant_id sources).sourceOf r = db.sourceOf r := by
  simp only [OwnedRow.within, decide_eq_true_eq] at hr
  refine filter_kept fun s _ hs => ?_
  simp only [OwnedRow.of_iff, OwnedRow.within, decide_eq_true_eq] at hs ⊢
  exact ⟨hs.1.trans hr.1, hs.2 ▸ hr.2⟩

theorem activeGeneration_restrict {s : MonitoringSource} (hs : s.within tenant_id sources = true) :
    (db.restrict tenant_id sources).activeGeneration s = db.activeGeneration s := by
  simp only [OwnedRow.within, decide_eq_true_eq] at hs
  refine filter_kept fun g _ hg => ?_
  simp only [OwnedRow.of_iff, OwnedRow.within, decide_eq_true_eq] at hg ⊢
  exact ⟨hg.1.1.trans hs.1, hg.1.2 ▸ hs.2⟩

/-- Rows that agree with a row of the part in tenant and source are of the part. -/
theorem OwnedRow.within_of_same {r r' : OwnedRow} (hr : r.within tenant_id sources = true) (ht : r'.tenant_id = r.tenant_id)
    (hs : r'.monitoring_source_id = r.monitoring_source_id) : r'.within tenant_id sources = true := by
  simp only [OwnedRow.within, decide_eq_true_eq] at hr ⊢
  exact ⟨ht.trans hr.1, hs ▸ hr.2⟩

/-- What is found from the rows of the part that meet `p` is what is found from all that meet it, if these are of the
part and lead to the same. -/
theorem flatMap_restrict {α β : Type} {row : α → OwnedRow} {rows : List α} {p : α → Bool} {f g : α → List β}
    (hwithin : ∀ a ∈ rows, p a = true → (row a).within tenant_id sources = true)
    (hfg : ∀ a ∈ rows, p a = true → f a = g a) :
    ((rows.filter fun a => (row a).within tenant_id sources).filter p).flatMap f = (rows.filter p).flatMap g := by
  rw [filter_kept hwithin]
  exact List.flatMap_congr fun a ha => hfg a (List.mem_filter.1 ha).1 (List.mem_filter.1 ha).2

/-- The rows that a row of the part refers to by a key, as all are that agree with it. -/
theorem referred_restrict {α : Type} {row : α → OwnedRow} {rows : List α} {p : α → Bool} {r : OwnedRow}
    (hr : r.within tenant_id sources = true) (hsame : ∀ a ∈ rows, p a = true →
      (row a).tenant_id = r.tenant_id ∧ (row a).monitoring_source_id = r.monitoring_source_id) :
    (rows.filter fun a => (row a).within tenant_id sources).filter p = rows.filter p :=
  filter_kept fun a ha hp => OwnedRow.within_of_same hr (hsame a ha hp).1 (hsame a ha hp).2

variable (hs : source_id ∈ sources)
include hs

theorem filter_of {α : Type} {row : α → OwnedRow} {rows : List α} {p : α → Bool}
    (hof : ∀ a, p a = true → (row a).of tenant_id source_id = true) :
    (rows.filter fun a => (row a).within tenant_id sources).filter p = rows.filter p :=
  filter_kept fun a _ hp => OwnedRow.within_of hs (hof a hp)

theorem get_source_restrict :
    (db.restrict tenant_id sources).get_source tenant_id source_id = db.get_source tenant_id source_id := by
  refine congrArg List.head? (flatMap_restrict (fun s _ hof => OwnedRow.within_of hs hof) fun s _ hof => ?_)
  rw [activeGeneration_restrict (OwnedRow.within_of hs hof)]

theorem list_resources_restrict (active_only : Bool) :
    (db.restrict tenant_id sources).list_resources tenant_id source_id active_only =
      db.list_resources tenant_id source_id active_only := by
  refine flatMap_restrict (fun r _ hof => OwnedRow.within_of hs hof) fun r _ hof => ?_
  rw [sourceOf_restrict (OwnedRow.within_of hs hof)]

theorem onboarding_restrict :
    (db.restrict tenant_id sources).onboarding tenant_id source_id = db.onboarding tenant_id source_id := by
  have hrows : (db.restrict tenant_id sources).monitoring_source.filter (fun s => s.of tenant_id source_id) =
      db.monitoring_source.filter fun s => s.of tenant_id source_id := filter_of hs fun _ hof => hof
  rw [MonitoringDb.onboarding, hrows]
  refine congrArg List.head? (List.map_congr_left fun s hmem => ?_)
  have hw := OwnedRow.within_of hs (List.mem_filter.1 hmem).2
  have hops : (db.restrict tenant_id sources).monitoring_sync_operation.filter
      (fun o => o.of s.tenant_id s.monitoring_source_id) =
        db.monitoring_sync_operation.filter fun o => o.of s.tenant_id s.monitoring_source_id :=
    referred_restrict hw fun o _ hof => OwnedRow.of_iff.1 hof
  have hevidence : (db.restrict tenant_id sources).monitoring_source_validation_evidence.filter
      (fun e => e.of s.tenant_id s.monitoring_source_id) =
        db.monitoring_source_validation_evidence.filter fun e => e.of s.tenant_id s.monitoring_source_id :=
    referred_restrict hw fun e _ hof => OwnedRow.of_iff.1 hof
  rw [hops, hevidence]

theorem list_streams_restrict :
    (db.restrict tenant_id sources).list_streams tenant_id source_id = db.list_streams tenant_id source_id :=
  filter_of hs fun _ hof => hof

theorem list_operations_restrict (state : Option String) :
    (db.restrict tenant_id sources).list_operations tenant_id source_id state =
      db.list_operations tenant_id source_id state :=
  congrArg (fun rows => ((List.filter _ rows).insertionSort _).take 50) (filter_of hs fun _ hof => hof)

theorem metric_history_restrict (definition_id : String) :
    (db.restrict tenant_id sources).metric_history tenant_id source_id definition_id =
      db.metric_history tenant_id source_id definition_id := by
  refine Prod.ext (congrArg List.head? (flatMap_restrict
    (fun d _ hof => OwnedRow.within_of hs (of_decide_eq_true hof).1) fun d _ hof => ?_)) (Prod.ext ?_ (Prod.ext ?_ ?_))
  · rw [sourceOf_restrict (OwnedRow.within_of hs (of_decide_eq_true hof).1)]
  · exact filter_of hs fun o hof => (of_decide_eq_true hof).1
  · exact filter_of hs fun s hof => (of_decide_eq_true hof).1
  · exact filter_of hs fun g hof => (of_decide_eq_true hof).1

/-! ### Joins by a key -/

variable (hi : db.Integral)
include hi

theorem resource_detail_restrict (resource_id : String) :
    (db.restrict tenant_id sources).resource_detail tenant_id source_id resource_id =
      db.resource_detail tenant_id source_id resource_id := by
  refine congrArg List.head? (flatMap_restrict
    (fun r _ hof => OwnedRow.within_of hs (of_decide_eq_true hof).1) fun r hr hof => congrArg (List.map _) ?_)
  refine referred_restrict (OwnedRow.within_of hs (of_decide_eq_true hof).1) fun e he hkey => ?_
  obtain ⟨hid, ht⟩ := of_decide_eq_true hkey
  exact ⟨ht, hi.evidence r hr e he ht hid⟩

theorem definitionOf_current {c : CurrentStateRow} (hc : c ∈ db.metric_current_state)
    (hof : c.of tenant_id source_id = true) :
    (db.restrict tenant_id sources).definitionOf c.tenant_id c.metric_definition_id =
      db.definitionOf c.tenant_id c.metric_definition_id := by
  refine referred_restrict (OwnedRow.within_of hs hof) fun d hd hkey => ?_
  obtain ⟨ht, hid⟩ := of_decide_eq_true hkey
  exact ⟨ht, hi.current c hc d hd ht hid⟩

theorem resource_current_restrict (resource_id : String) :
    (db.restrict tenant_id sources).resource_current tenant_id source_id resource_id =
      db.resource_current tenant_id source_id resource_id := by
  refine flatMap_restrict (fun c _ hof => OwnedRow.within_of hs (of_decide_eq_true hof).1) fun c hc hof => ?_
  rw [definitionOf_current hs hi hc (of_decide_eq_true hof).1]

theorem list_current_restrict :
    (db.restrict tenant_id sources).list_current tenant_id source_id = db.list_current tenant_id source_id := by
  refine flatMap_restrict (fun c _ hof => OwnedRow.within_of hs hof) fun c hc hof => ?_
  rw [definitionOf_current hs hi hc hof, sourceOf_restrict (OwnedRow.within_of hs hof)]

theorem list_definitions_restrict :
    (db.restrict tenant_id sources).list_definitions tenant_id source_id = db.list_definitions tenant_id source_id := by
  refine flatMap_restrict (fun d _ hof => OwnedRow.within_of hs hof) fun d hd hof => ?_
  have hw := OwnedRow.within_of hs hof
  rw [sourceOf_restrict hw]
  refine congrArg (List.flatMap _) (referred_restrict hw fun b hb hkey => ?_)
  obtain ⟨ht, hid⟩ := of_decide_eq_true hkey
  exact ⟨ht, hi.binding d hd b hb ht hid⟩

theorem list_history_restrict :
    (db.restrict tenant_id sources).list_history tenant_id source_id = db.list_history tenant_id source_id := by
  refine flatMap_restrict (fun o _ hof => OwnedRow.within_of hs hof) fun o ho hof => congrArg (List.map _) ?_
  refine referred_restrict (OwnedRow.within_of hs hof) fun d hd hkey => ?_
  obtain ⟨ht, hid⟩ := of_decide_eq_true hkey
  exact ⟨ht, hi.observation o ho d hd ht hid⟩

theorem list_problems_restrict (active_only : Bool) :
    (db.restrict tenant_id sources).list_problems tenant_id source_id active_only =
      db.list_problems tenant_id source_id active_only := by
  refine flatMap_restrict (fun p _ hof => OwnedRow.within_of hs (of_decide_eq_true hof).1) fun p hp hof => ?_
  have hw := OwnedRow.within_of hs (of_decide_eq_true hof).1
  rw [sourceOf_restrict hw]
  refine congrArg (List.flatMap _) (referred_restrict hw fun b hb hkey => ?_)
  obtain ⟨ht, hid⟩ := of_decide_eq_true hkey
  exact ⟨ht, hi.problem p hp b hb ht hid⟩

theorem list_health_restrict :
    (db.restrict tenant_id sources).list_health tenant_id source_id = db.list_health tenant_id source_id := by
  refine flatMap_restrict (fun h _ hof => OwnedRow.within_of hs hof) fun h hh hof => ?_
  have hw := OwnedRow.within_of hs hof
  have hproblems : (db.restrict tenant_id sources).problemRefs h = db.problemRefs h := by
    refine congrArg (fun rows => (((List.filter _ rows).insertionSort _).take 64).map ProblemRow.problem_id) ?_
    refine referred_restrict hw fun p hp hkey => ?_
    obtain ⟨ht, hid⟩ := of_decide_eq_true hkey
    exact ⟨ht, hi.problem_refs h hh p hp ht hid⟩
  rw [sourceOf_restrict hw, hproblems]
  refine congrArg (List.flatMap _) (referred_restrict hw fun r hr hkey => ?_)
  obtain ⟨ht, hid⟩ := of_decide_eq_true hkey
  exact ⟨ht, hi.health h hh r hr ht hid⟩

end Restrict

/-! ### The answers -/

/-- The source that a read names. -/
def MonitoringRead.source? : MonitoringRead → Option String
  | .list_sources => none
  | .get_source source_id => some source_id
  | .resources source_id => some source_id
  | .resource_detail source_id _ => some source_id
  | .resource_current source_id _ => some source_id
  | .resource_problems source_id _ => some source_id
  | .onboarding source_id => some source_id
  | .metrics source_id => some source_id
  | .current source_id => some source_id
  | .history source_id => some source_id
  | .metric_history source_id _ => some source_id
  | .streams source_id => some source_id
  | .problems source_id => some source_id
  | .operations source_id => some source_id
  | .health source_id => some source_id
  | .outbox => none

/-- **Key result.** A read that names a source of the part answers on the part what it answers on all the tables. -/
theorem answer_restrict {rt : Runtime} {q : MonitoringQuery} {tenant_id source_id : String} {sources : List String}
    {db : MonitoringDb} {read : MonitoringRead} (hread : read.source? = some source_id) (hs : source_id ∈ sources)
    (hi : db.Integral) : read.answer rt q tenant_id (db.restrict tenant_id sources) = read.answer rt q tenant_id db := by
  cases read with
  | list_sources => simp [MonitoringRead.source?] at hread
  | outbox => simp [MonitoringRead.source?] at hread
  | get_source id =>
    obtain rfl := Option.some.inj hread
    rw [MonitoringRead.answer, get_source_restrict hs, MonitoringRead.answer]
  | resources id =>
    obtain rfl := Option.some.inj hread
    rw [MonitoringRead.answer, list_resources_restrict hs, MonitoringRead.answer]
  | resource_detail id resource_id =>
    obtain rfl := Option.some.inj hread
    rw [MonitoringRead.answer, resource_detail_restrict hs hi, MonitoringRead.answer]
  | resource_current id resource_id =>
    obtain rfl := Option.some.inj hread
    rw [MonitoringRead.answer, resource_current_restrict hs hi, MonitoringRead.answer]
  | resource_problems id resource_id =>
    obtain rfl := Option.some.inj hread
    rw [MonitoringRead.answer, list_problems_restrict hs hi, MonitoringRead.answer]
  | onboarding id =>
    obtain rfl := Option.some.inj hread
    rw [MonitoringRead.answer, onboarding_restrict hs, MonitoringRead.answer]
  | metrics id =>
    obtain rfl := Option.some.inj hread
    rw [MonitoringRead.answer, list_definitions_restrict hs hi, MonitoringRead.answer]
  | current id =>
    obtain rfl := Option.some.inj hread
    rw [MonitoringRead.answer, list_current_restrict hs hi, MonitoringRead.answer]
  | history id =>
    obtain rfl := Option.some.inj hread
    rw [MonitoringRead.answer, list_history_restrict hs hi, MonitoringRead.answer]
  | metric_history id definition_id =>
    obtain rfl := Option.some.inj hread
    rw [MonitoringRead.answer, metric_history_restrict hs, MonitoringRead.answer]
  | streams id =>
    obtain rfl := Option.some.inj hread
    rw [MonitoringRead.answer, list_streams_restrict hs, MonitoringRead.answer]
  | problems id =>
    obtain rfl := Option.some.inj hread
    rw [MonitoringRead.answer, list_problems_restrict hs hi, MonitoringRead.answer]
  | operations id =>
    obtain rfl := Option.some.inj hread
    rw [MonitoringRead.answer, list_operations_restrict hs, MonitoringRead.answer]
  | health id =>
    obtain rfl := Option.some.inj hread
    rw [MonitoringRead.answer, list_health_restrict hs hi, MonitoringRead.answer]

end JLMirror.Access
