import JLMirror.Access.Cursors
import JLMirror.Access.MonitoringReads
import JLMirror.Foundations.Keyset

/-!
# The pages of a list

`list_resources` and `list_problems` answer with a page and a cursor, and a client asks for the next page with that
cursor. The `WHERE` of the next page compares what the cursor carries, in SQL; that it selects what the order of the last
page has left is in no place of the code.

## The model

* A client follows `next_cursor` from the first page until there is none (`walk`), with the other parameters as they are.
* The cursors are those of `Cursors` (`Runtime.withCursors`).
* `Runtime.Reads` is what the database does: it reads a time as `isoformat` writes it, and its texts are in a total order.

## What is proved

* `problem_behind`: the `WHERE` of `list_problems` is the strict order of its rows.
* `problem_pages`, `resource_pages`: each page is the first part of what is behind its cursor.
* **Key result** (`pages_lose_nothing`): the pages make up the ordered list, for every content of the tables, every view
  and every limit, and they come to an end.

## Honest scope

The tables do not change between two pages.
-/

namespace JLMirror.Access

open JLMirror.Foundations

/-! ### The claim -/

/-- The primary keys. -/
structure MonitoringDb.Keyed (db : MonitoringDb) : Prop where
  source : (db.monitoring_source.map fun s => (s.tenant_id, s.monitoring_source_id)).Nodup
  resource : (db.monitoring_resource.map fun r => (r.tenant_id, r.monitoring_resource_id)).Nodup
  problem : (db.monitoring_problem.map fun p => (p.tenant_id, p.problem_id)).Nodup
  binding : (db.monitoring_problem_provider_binding.map fun b => (b.tenant_id, b.problem_id)).Nodup

/-- What the database does with times and texts. -/
structure Runtime.Reads (rt : Runtime) (db : MonitoringDb) : Prop where
  timestamptz : ∀ p ∈ db.monitoring_problem, rt.timestamptz (.str (rt.isoformat p.opened_at)) = some p.opened_at
  total : ∀ a b, rt.text_le a b = true ∨ rt.text_le b a = true
  trans : ∀ a b c, rt.text_le a b = true → rt.text_le b c = true → rt.text_le a c = true
  antisymm : ∀ a b, rt.text_le a b = true → rt.text_le b a = true → a = b

/-- The cursors of the code. -/
def Runtime.withCursors (rt : Runtime) : Runtime :=
  { rt with encode_cursor := _encode_cursor, decode_cursor := Access.decode_cursor }

/-- The items and the next cursor of a page; `none` where the answer is no page. -/
def ApiResponse.page (r : ApiResponse) : Option (List Json × Option String) :=
  match r.status, r.body with
  | 200, .obj entries =>
    match entries.lookup "items", entries.lookup "next_cursor" with
    | some (.arr items), some .null => some (items, none)
    | some (.arr items), some (.str cursor) => some (items, some cursor)
    | _, _ => none
  | _, _ => none

/-- The items of a list, page by page, where `n` pages are enough. -/
def readPages (rt : Runtime) (q : MonitoringQuery) (tenant_id : String) (db : MonitoringDb) (read : MonitoringRead)
    (n : ℕ) : Option (List Json) :=
  walk (fun cursor => (read.answer rt.withCursors { q with cursor := cursor } tenant_id db).page) n none

/-- The rows are read in order, each one once, where as many pages as there are rows are enough. -/
def ReadInFull {α : Type} (listed : List α) (lt : α → α → Prop) (item : α → Json)
    (pages : ℕ → Option (List Json)) : Prop :=
  ∃ rows : List α, rows.Perm listed ∧ rows.Pairwise lt ∧ ∀ n, rows.length < n → pages n = some (rows.map item)

/-- The entries of an item of `list_problems`. -/
def problemEntries (rt : Runtime) (operational : Bool) (r : ProblemRow × ProblemBinding × MonitoringSource) :
    List (String × Json) :=
  let item :=
    [("problem_id", .str r.1.problem_id), ("monitoring_source_id", .str r.1.monitoring_source_id),
      ("source_instance_generation", .str r.1.source_instance_generation),
      ("generation_state", generation_state r.1.source_instance_generation r.2.2),
      ("monitoring_resource_ids", .arr [.str r.1.monitoring_resource_id]), ("summary", r.1.columns "summary"),
      ("problem_state", .str r.1.problem_state), ("severity_class", .str r.1.severity_class),
      ("opened_at", .str (rt.isoformat r.1.opened_at))] ++
    r.1.shown ["resolved_at", "last_confirmed_at", "evidence_state", "projection_revision", "provider_acknowledged"] ++
    [("monitoring_resource_id", .str r.1.monitoring_resource_id),
      ("provider_eventid", r.2.1.columns "provider_external_ref"), ("sev_rank", .num r.1.sevRank)]
  if operational then item
  else pop ["projection_revision", "provider_acknowledged", "monitoring_resource_id", "provider_eventid", "sev_rank"] item

/-- The entries of an item of `list_resources`. -/
def resourceEntries (operational : Bool) (r : ResourceRow × MonitoringSource) : List (String × Json) :=
  let item :=
    [("monitoring_resource_id", .str r.1.monitoring_resource_id),
      ("monitoring_source_id", .str r.1.monitoring_source_id),
      ("source_instance_generation", .str r.1.source_instance_generation),
      ("generation_state", generation_state r.1.source_instance_generation r.2)] ++
    r.1.shown ["display_name", "resource_kind", "scope_state", "scope_projection_revision", "scope_evidence_state",
      "presence_state", "presence_evidence_state", "last_observed_at", "last_confirmed_present_at", "created_at",
      "updated_at", "provider_external_ref", "removed_at", "host_groups"]
  if operational then item else pop ["provider_external_ref", "removed_at", "host_groups"] item

/-! ### The order of the rows -/

section Order

variable {rt : Runtime} {db : MonitoringDb} {a b c : ProblemRow}

theorem before_total (h : rt.Reads db) (a b : ProblemRow) : a.before rt b ∨ b.before rt a := by
  unfold ProblemRow.before
  rcases lt_trichotomy a.sevRank b.sevRank with hlt | heq | hlt
  · exact Or.inl (Or.inl hlt)
  · rcases lt_trichotomy a.opened_at b.opened_at with hopen | hopen | hopen
    · exact Or.inr (Or.inr ⟨heq.symm, Or.inl hopen⟩)
    · exact (h.total a.problem_id b.problem_id).imp (fun hle => Or.inr ⟨heq, Or.inr ⟨hopen, hle⟩⟩)
        fun hle => Or.inr ⟨heq.symm, Or.inr ⟨hopen.symm, hle⟩⟩
    · exact Or.inl (Or.inr ⟨heq, Or.inl hopen⟩)
  · exact Or.inr (Or.inl hlt)

theorem before_trans (h : rt.Reads db) (hab : a.before rt b) (hbc : b.before rt c) : a.before rt c := by
  unfold ProblemRow.before at *
  rcases hab with hab | ⟨hab, hab'⟩ <;> rcases hbc with hbc | ⟨hbc, hbc'⟩
  · exact Or.inl (hab.trans hbc)
  · exact Or.inl (hbc ▸ hab)
  · exact Or.inl (hab ▸ hbc)
  · refine Or.inr ⟨hab.trans hbc, ?_⟩
    rcases hab' with hab' | ⟨hab', hle⟩ <;> rcases hbc' with hbc' | ⟨hbc', hle'⟩
    · exact Or.inl (hbc'.trans hab')
    · exact Or.inl (hbc' ▸ hab')
    · exact Or.inl (hab' ▸ hbc')
    · exact Or.inr ⟨hab'.trans hbc', h.trans _ _ _ hle hle'⟩

theorem problem_id_of_before (h : rt.Reads db) (hab : a.before rt b) (hba : b.before rt a) :
    a.problem_id = b.problem_id := by
  unfold ProblemRow.before at *
  rcases hab with hab | ⟨hab, hab' | ⟨hab', hle⟩⟩ <;> rcases hba with hba | ⟨hba, hba' | ⟨hba', hle'⟩⟩ <;>
    first | omega | exact h.antisymm _ _ hle hle'

theorem problems_ordered (h : rt.Reads db) :
    Std.Total fun a b : ProblemRow × ProblemBinding × MonitoringSource => a.1.before rt b.1 :=
  ⟨fun a b => before_total h a.1 b.1⟩

theorem problems_trans (h : rt.Reads db) :
    IsTrans _ fun a b : ProblemRow × ProblemBinding × MonitoringSource => a.1.before rt b.1 :=
  ⟨fun _ _ _ => before_trans h⟩

theorem resources_ordered (h : rt.Reads db) :
    Std.Total fun a b : ResourceRow × MonitoringSource =>
      rt.text_le a.1.monitoring_resource_id b.1.monitoring_resource_id = true :=
  ⟨fun a b => h.total a.1.monitoring_resource_id b.1.monitoring_resource_id⟩

theorem resources_trans (h : rt.Reads db) :
    IsTrans _ fun a b : ResourceRow × MonitoringSource =>
      rt.text_le a.1.monitoring_resource_id b.1.monitoring_resource_id = true :=
  ⟨fun _ _ _ => h.trans _ _ _⟩

/-- The `WHERE` of `list_problems` is the strict order of its rows. -/
theorem problem_behind (a b : ProblemRow) :
    decide (a.sevRank < b.sevRank ∨ (b.sevRank = a.sevRank ∧ b.opened_at < a.opened_at) ∨
      (b.sevRank = a.sevRank ∧ b.opened_at = a.opened_at ∧ (!rt.text_le b.problem_id a.problem_id) = true)) =
    !decide (b.before rt a) := by
  rw [← decide_not, decide_eq_decide]
  unfold ProblemRow.before
  cases rt.text_le b.problem_id a.problem_id <;> simp <;> omega

end Order

/-! ### The rows of a list -/

section Rows

variable {db : MonitoringDb} {tenant_id source_id : String}

theorem length_flatMap_le_one {α β : Type} {l : List α} {f : α → List β} (hl : l.length ≤ 1)
    (hf : ∀ a ∈ l, (f a).length ≤ 1) : (l.flatMap f).length ≤ 1 := by
  rcases l with _ | ⟨a, _ | ⟨b, l⟩⟩
  · exact Nat.zero_le 1
  · rw [List.flatMap_singleton]
    exact hf a List.mem_cons_self
  · simp at hl

theorem length_sourceOf_le_one (hdb : db.Keyed) (r : OwnedRow) : (db.sourceOf r).length ≤ 1 := by
  refine length_filter_le_one hdb.source fun s _ s' _ hs hs' => ?_
  obtain ⟨htenant, hid⟩ := OwnedRow.of_iff.1 hs
  obtain ⟨htenant', hid'⟩ := OwnedRow.of_iff.1 hs'
  exact Prod.ext (htenant.trans htenant'.symm) (hid.trans hid'.symm)

/-- No problem is listed twice. -/
theorem problem_rows_nodup (hdb : db.Keyed) (active_only : Bool) :
    ((db.list_problems tenant_id source_id active_only).map fun r => (r.1.tenant_id, r.1.problem_id)).Nodup := by
  refine nodup_map_flatMap (hdb.problem.sublist (List.filter_sublist.map _)) (fun p _ x hx => ?_) fun p _ => ?_
  · obtain ⟨b, -, hx⟩ := List.mem_flatMap.1 hx
    obtain ⟨s, -, rfl⟩ := List.mem_map.1 hx
    rfl
  · refine length_flatMap_le_one (length_filter_le_one hdb.binding fun b _ b' _ hb hb' => ?_) fun b _ => ?_
    · obtain ⟨htenant, hid⟩ := of_decide_eq_true hb
      obtain ⟨htenant', hid'⟩ := of_decide_eq_true hb'
      exact Prod.ext (htenant.trans htenant'.symm) (hid.trans hid'.symm)
    · rw [List.length_map]
      exact length_sourceOf_le_one hdb _

theorem resource_rows_nodup (hdb : db.Keyed) (active_only : Bool) :
    ((db.list_resources tenant_id source_id active_only).map fun r =>
      (r.1.tenant_id, r.1.monitoring_resource_id)).Nodup := by
  refine nodup_map_flatMap (hdb.resource.sublist (List.filter_sublist.map _)) (fun r _ x hx => ?_) fun r _ => ?_
  · obtain ⟨s, -, rfl⟩ := List.mem_map.1 hx
    rfl
  · rw [List.length_map]
    exact (List.length_filter_le _ _).trans (length_sourceOf_le_one hdb _)

theorem problem_row_mem {active_only : Bool} {r : ProblemRow × ProblemBinding × MonitoringSource}
    (hr : r ∈ db.list_problems tenant_id source_id active_only) :
    r.1 ∈ db.monitoring_problem ∧ r.1.tenant_id = tenant_id := by
  obtain ⟨p, hp, hr⟩ := List.mem_flatMap.1 hr
  obtain ⟨b, -, hr⟩ := List.mem_flatMap.1 hr
  obtain ⟨s, -, rfl⟩ := List.mem_map.1 hr
  obtain ⟨hp, hsel⟩ := List.mem_filter.1 hp
  simp only [Bool.decide_and, Bool.and_eq_true, decide_eq_true_eq] at hsel
  exact ⟨hp, (OwnedRow.of_iff.1 hsel.1).1⟩

theorem resource_row_tenant {active_only : Bool} {r : ResourceRow × MonitoringSource}
    (hr : r ∈ db.list_resources tenant_id source_id active_only) : r.1.tenant_id = tenant_id := by
  obtain ⟨x, hx, hr⟩ := List.mem_flatMap.1 hr
  obtain ⟨s, -, rfl⟩ := List.mem_map.1 hr
  exact (OwnedRow.of_iff.1 (List.mem_filter.1 hx).2).1

end Rows

/-! ### Pages -/

section Pages

variable {rt : Runtime} {q : MonitoringQuery}

/-- The page that a list answers with: its items, and the cursor of the last one where there is more. -/
theorem page_ok {α : Type} (first : List (String × Json))
    (hfirst : first.lookup "items" = none ∧ first.lookup "next_cursor" = none) (item : α → Json) (cursor : α → String) (limit : ℕ) (post : List α) {next : Json}
    (hnext : next = if limit < (post.take (limit + 1)).length then
      (post.take limit).getLast?.elim .null fun r => .str (cursor r) else .null) :
    (ok (.obj (first ++ [("items", .arr ((post.take limit).map item)), ("next_cursor", next)]))).page =
      some ((post.take limit).map item, if limit < post.length then (post.take limit).getLast?.map cursor else none) := by
  have hmore : limit < (post.take (limit + 1)).length ↔ limit < post.length := by
    rw [List.length_take]
    omega
  have hcursor : (first ++ [("items", Json.arr ((post.take limit).map item)), ("next_cursor", next)]).lookup
      "next_cursor" = some next := by
    rw [List.lookup_append, hfirst.2]
    rfl
  have hitems : (first ++ [("items", Json.arr ((post.take limit).map item)), ("next_cursor", next)]).lookup "items" =
      some (.arr ((post.take limit).map item)) := by
    rw [List.lookup_append, hfirst.1]
    rfl
  simp only [ApiResponse.page, ok, hitems, hcursor]
  by_cases hlt : limit < post.length
  · rw [if_pos (hmore.2 hlt)] at hnext
    rw [if_pos hlt]
    cases hlast : (post.take limit).getLast? <;> rw [hlast] at hnext <;> rw [hnext] <;> rfl
  · rw [if_neg (mt hmore.1 hlt)] at hnext
    rw [if_neg hlt, hnext]

/-- What a cursor of `list_problems` carries. -/
def problemKey (rt : Runtime) (r : ProblemRow × ProblemBinding × MonitoringSource) : List (String × Json) :=
  [("r", .num r.1.sevRank), ("o", .str (rt.isoformat r.1.opened_at)), ("p", .str r.1.problem_id)]

/-- What a cursor of `list_resources` carries. -/
def resourceKey (r : ResourceRow × MonitoringSource) : List (String × Json) := [("k", .str r.1.monitoring_resource_id)]

theorem decode_problemKey (rt : Runtime) (r : ProblemRow × ProblemBinding × MonitoringSource) :
    decode_cursor (_encode_cursor (problemKey rt r)) = some (problemKey rt r) :=
  decode_encode_cursor (List.cons_ne_nil _ _)
    (by
      intro e he
      simp only [problemKey, List.mem_cons, List.not_mem_nil, or_false] at he
      rcases he with rfl | rfl | rfl
      · exact .num _
      · exact .str _
      · exact .str _)
    (show ["r", "o", "p"].Nodup by decide)

theorem decode_resourceKey (r : ResourceRow × MonitoringSource) :
    decode_cursor (_encode_cursor (resourceKey r)) = some (resourceKey r) :=
  decode_encode_cursor (List.cons_ne_nil _ _)
    (by
      intro e he
      obtain rfl := List.mem_singleton.1 he
      exact .str _)
    (List.nodup_singleton "k")

theorem truthy_cursor {cursor : String} {payload : List (String × Json)} (h : decode_cursor cursor = some payload) :
    truthy (some cursor) = some cursor := by
  have hne : cursor ≠ "" := by
    rintro rfl
    cases decode_cursor_empty.symm.trans h
  simp [truthy, hne]

theorem list_params_of_decode {cursor : Option String} (hview : q.view.getD "contract" ∈ ["contract", "operational"])
    (hcursor : ∀ c ∈ cursor, ∃ payload, decode_cursor c = some payload) :
    list_params rt.withCursors { q with cursor := cursor } = none := by
  rw [list_params, if_neg (not_not.2 hview), if_neg]
  cases cursor with
  | none => simp [truthy]
  | some c =>
    obtain ⟨payload, hc⟩ := hcursor c rfl
    change ¬((truthy (some c)).any fun c => (decode_cursor c).isNone) = true
    rw [truthy_cursor hc, Option.any_some, hc]
    exact Bool.noConfusion

variable {db : MonitoringDb} {tenant_id source_id : String}

/-- The page of `list_problems` behind a cursor. -/
theorem problem_page {after : ProblemRow → Bool} {post : List (ProblemRow × ProblemBinding × MonitoringSource)}
    (hparams : list_params rt.withCursors q = none) (hafter : problemAfter rt.withCursors q.cursor = some after)
    (hpost : ((db.list_problems tenant_id source_id (q.active_only.getD false)).filter fun r => after r.1).insertionSort
      (fun a b => a.1.before rt b.1) = post) :
    (MonitoringRead.answer rt.withCursors q tenant_id db (.problems source_id)).page =
      some ((post.take q.pageLimit).map fun r => .obj (problemEntries rt q.operational r),
        if q.pageLimit < post.length then
          (post.take q.pageLimit).getLast?.map fun r => _encode_cursor (problemKey rt r) else none) := by
  have htake : (post.take (q.pageLimit + 1)).take q.pageLimit = post.take q.pageLimit := by
    rw [List.take_take, Nat.min_eq_left (Nat.le_succ _)]
  have hpage : problemPage rt.withCursors q.cursor q.pageLimit q.operational
      (db.list_problems tenant_id source_id (q.active_only.getD false)) =
      some ((post.take q.pageLimit).map (problemEntries rt q.operational),
        if q.pageLimit < (post.take (q.pageLimit + 1)).length then
          (post.take q.pageLimit).getLast?.elim .null fun r => .str (_encode_cursor (problemKey rt r)) else .null) := by
    have hfetched : ((db.list_problems tenant_id source_id (q.active_only.getD false)).filter fun r =>
        after r.1).insertionSort (fun a b => a.1.before rt.withCursors b.1) = post := hpost
    simp only [problemPage, hafter, Option.bind_eq_bind, Option.bind_some, hfetched, htake]
    rfl
  simp only [MonitoringRead.answer, listProblemsAnswer, hparams, hpage, List.map_map]
  exact page_ok [] ⟨rfl, rfl⟩ (fun r => .obj (problemEntries rt q.operational r))
    (fun r => _encode_cursor (problemKey rt r)) _ _ rfl

/-- The page of `list_resources` behind a cursor. -/
theorem resource_page {after : Option String} {post : List (ResourceRow × MonitoringSource)}
    (hparams : list_params rt.withCursors q = none) (hafter : keyAfter rt.withCursors q = some after)
    (hpost : ((db.list_resources tenant_id source_id !q.operational).filter fun r =>
      after.all fun a => !rt.text_le r.1.monitoring_resource_id a).insertionSort
        (fun a b => rt.text_le a.1.monitoring_resource_id b.1.monitoring_resource_id = true) = post) :
    (MonitoringRead.answer rt.withCursors q tenant_id db (.resources source_id)).page =
      some ((post.take q.pageLimit).map fun r => .obj (resourceEntries q.operational r),
        if q.pageLimit < post.length then
          (post.take q.pageLimit).getLast?.map fun r => _encode_cursor (resourceKey r) else none) := by
  have htake : (post.take (q.pageLimit + 1)).take q.pageLimit = post.take q.pageLimit := by
    rw [List.take_take, Nat.min_eq_left (Nat.le_succ _)]
  have hpage : keyset rt.withCursors q (fun r : ResourceRow × MonitoringSource => r.1.monitoring_resource_id) after
      (db.list_resources tenant_id source_id !q.operational) =
      (post.take q.pageLimit, if q.pageLimit < (post.take (q.pageLimit + 1)).length then
        (post.take q.pageLimit).getLast?.elim .null fun r => .str (_encode_cursor (resourceKey r)) else .null) := by
    have hfetched : ((db.list_resources tenant_id source_id !q.operational).filter fun r =>
        after.all fun a => !rt.withCursors.text_le r.1.monitoring_resource_id a).insertionSort
          (fun a b => rt.withCursors.text_le a.1.monitoring_resource_id b.1.monitoring_resource_id = true) = post := hpost
    simp only [keyset, hfetched, htake]
    rfl
  simp only [MonitoringRead.answer, listResourcesAnswer, Access.page, hparams, hafter, hpage]
  exact page_ok _ ⟨rfl, rfl⟩ (fun r => .obj (resourceEntries q.operational r)) (fun r => _encode_cursor (resourceKey r))
    _ _ rfl

theorem problem_antisymm (hdb : db.Keyed) (hrt : rt.Reads db) (active_only : Bool) :
    ∀ a ∈ db.list_problems tenant_id source_id active_only, ∀ b ∈ db.list_problems tenant_id source_id active_only,
      a.1.before rt b.1 → b.1.before rt a.1 → a = b := by
  intro a ha b hb hab hba
  refine eq_of_key (problem_rows_nodup hdb active_only) ha hb (Prod.ext ?_ (problem_id_of_before hrt hab hba))
  exact (problem_row_mem ha).2.trans (problem_row_mem hb).2.symm

theorem resource_antisymm (hdb : db.Keyed) (hrt : rt.Reads db) (active_only : Bool) :
    ∀ a ∈ db.list_resources tenant_id source_id active_only, ∀ b ∈ db.list_resources tenant_id source_id active_only,
      rt.text_le a.1.monitoring_resource_id b.1.monitoring_resource_id = true →
      rt.text_le b.1.monitoring_resource_id a.1.monitoring_resource_id = true → a = b := by
  intro a ha b hb hab hba
  refine eq_of_key (resource_rows_nodup hdb active_only) ha hb (Prod.ext ?_ (hrt.antisymm _ _ hab hba))
  exact (resource_row_tenant ha).trans (resource_row_tenant hb).symm

/-- The `WHERE` that the cursor of a problem stands for. -/
theorem problemAfter_key (hrt : rt.Reads db) {r : ProblemRow × ProblemBinding × MonitoringSource}
    (hr : r.1 ∈ db.monitoring_problem) :
    problemAfter rt.withCursors (some (_encode_cursor (problemKey rt r))) = some fun p => !decide (p.before rt r.1) := by
  have hdecode := decode_problemKey rt r
  have hrank : (problemKey rt r).lookup "r" = some (.num r.1.sevRank) := rfl
  have hopened : (problemKey rt r).lookup "o" = some (.str (rt.isoformat r.1.opened_at)) := rfl
  have hid : (problemKey rt r).lookup "p" = some (.str r.1.problem_id) := rfl
  have hcast : castField rt.withCursors.timestamptz (some (.str (rt.isoformat r.1.opened_at))) =
      some (some r.1.opened_at) :=
    congrArg (Option.map some) (hrt.timestamptz _ hr)
  rw [problemAfter, truthy_cursor hdecode]
  change (decode_cursor (_encode_cursor (problemKey rt r))).bind _ = _
  rw [hdecode]
  simp only [Option.bind_some, Option.bind_eq_bind, hrank, hopened, hid, hcast]
  refine congrArg some (funext fun p => ?_)
  rw [← problem_behind]
  simp only [Option.any_some, decide_eq_true_eq]
  rfl

/-- Each page of problems is the first part of what is behind its cursor. -/
theorem problem_pages (hdb : db.Keyed) (hrt : rt.Reads db)
    (hview : q.view.getD "contract" ∈ ["contract", "operational"]) :
    PagesOf (fun r => _encode_cursor (problemKey rt r)) (fun r => .obj (problemEntries rt q.operational r)) q.pageLimit
      ((db.list_problems tenant_id source_id (q.active_only.getD false)).insertionSort fun a b => a.1.before rt b.1)
      fun cursor =>
        (MonitoringRead.answer rt.withCursors { q with cursor := cursor } tenant_id db (.problems source_id)).page := by
  intro pre post cursor hrows hcursor
  have := problems_ordered hrt
  have := problems_trans hrt
  cases hcursor with
  | start =>
    refine problem_page (q := { q with cursor := none }) (list_params_of_decode hview fun c hc => by cases hc) rfl ?_
    rw [List.filter_eq_self.2 fun _ _ => rfl]
    exact hrows
  | behind pre r =>
    have hr : r ∈ db.list_problems tenant_id source_id (q.active_only.getD false) := by
      refine (List.mem_insertionSort fun a b => a.1.before rt b.1).1 ?_
      rw [hrows]
      simp
    refine problem_page (q := { q with cursor := some (_encode_cursor (problemKey rt r)) })
      (list_params_of_decode hview fun c hc => ⟨problemKey rt r, ?_⟩) (problemAfter_key hrt (problem_row_mem hr).1) ?_
    · obtain rfl := Option.some.inj hc
      exact decode_problemKey rt r
    · exact insertionSort_behind (problem_rows_nodup hdb _).of_map (problem_antisymm hdb hrt _)
        (hrows.trans (List.append_assoc pre [r] post))

/-- Each page of resources is the first part of what is behind its cursor. -/
theorem resource_pages (hdb : db.Keyed) (hrt : rt.Reads db)
    (hview : q.view.getD "contract" ∈ ["contract", "operational"]) :
    PagesOf (fun r => _encode_cursor (resourceKey r)) (fun r => .obj (resourceEntries q.operational r)) q.pageLimit
      ((db.list_resources tenant_id source_id !q.operational).insertionSort fun a b =>
        rt.text_le a.1.monitoring_resource_id b.1.monitoring_resource_id = true)
      fun cursor =>
        (MonitoringRead.answer rt.withCursors { q with cursor := cursor } tenant_id db (.resources source_id)).page := by
  intro pre post cursor hrows hcursor
  have := resources_ordered hrt
  have := resources_trans hrt
  cases hcursor with
  | start =>
    refine resource_page (q := { q with cursor := none }) (list_params_of_decode hview fun c hc => by cases hc) rfl ?_
    exact (congrArg (List.insertionSort _) (List.filter_eq_self.2 fun _ _ => rfl)).trans hrows
  | behind pre r =>
    have hdecode := decode_resourceKey r
    have hafter : keyAfter rt.withCursors { q with cursor := some (_encode_cursor (resourceKey r)) } =
        some (some r.1.monitoring_resource_id) := by
      rw [keyAfter, truthy_cursor hdecode]
      change (decode_cursor (_encode_cursor (resourceKey r))).bind _ = _
      rw [hdecode]
      rfl
    refine resource_page (q := { q with cursor := some (_encode_cursor (resourceKey r)) })
      (list_params_of_decode hview fun c hc => ⟨resourceKey r, ?_⟩) hafter ?_
    · obtain rfl := Option.some.inj hc
      exact hdecode
    · have hbehind := insertionSort_behind (resource_rows_nodup hdb _).of_map (resource_antisymm hdb hrt _)
        (hrows.trans (List.append_assoc pre [r] post))
      simp only [Bool.decide_eq_true] at hbehind
      exact hbehind

theorem pageLimit_pos (q : MonitoringQuery) : 0 < q.pageLimit := by
  unfold MonitoringQuery.pageLimit
  omega

/-- **Key result.** The pages of a list, one behind the other, are its rows in order, each one once, and they come to
an end. -/
theorem pages_lose_nothing (rt : Runtime) (db : MonitoringDb) (hdb : db.Keyed) (hrt : rt.Reads db) (q : MonitoringQuery)
    (hview : q.view.getD "contract" ∈ ["contract", "operational"]) (tenant_id source_id : String) :
    ReadInFull (db.list_problems tenant_id source_id (q.active_only.getD false))
      (fun a b => a.1.before rt b.1 ∧ ¬b.1.before rt a.1) (fun r => .obj (problemEntries rt q.operational r))
      (readPages rt q tenant_id db (.problems source_id)) ∧
    ReadInFull (db.list_resources tenant_id source_id !q.operational)
      (fun a b => rt.text_le a.1.monitoring_resource_id b.1.monitoring_resource_id = true ∧
        ¬rt.text_le b.1.monitoring_resource_id a.1.monitoring_resource_id = true)
      (fun r => .obj (resourceEntries q.operational r)) (readPages rt q tenant_id db (.resources source_id)) := by
  have := problems_ordered hrt
  have := problems_trans hrt
  have := resources_ordered hrt
  have := resources_trans hrt
  refine ⟨⟨_, List.perm_insertionSort (fun a b => a.1.before rt b.1) _, ?_, fun n hn => ?_⟩,
    ⟨_, List.perm_insertionSort (fun a b => rt.text_le a.1.monitoring_resource_id b.1.monitoring_resource_id = true) _,
      ?_, fun n hn => ?_⟩⟩
  · exact pairwise_insertionSort_strict (problem_rows_nodup hdb _).of_map (problem_antisymm hdb hrt _)
  · exact walk_complete (pageLimit_pos q) (problem_pages hdb hrt hview) n [] _ none rfl .start hn
  · exact pairwise_insertionSort_strict (resource_rows_nodup hdb _).of_map (resource_antisymm hdb hrt _)
  · exact walk_complete (pageLimit_pos q) (resource_pages hdb hrt hview) n [] _ none rfl .start hn

end Pages

/-- Two problems of one severity and one time. -/
def tiedProblems : MonitoringDb where
  monitoring_source := [⟨⟨"t", "s", fun _ => .null⟩, "generation", "current", 0⟩]
  monitoring_source_generation := []
  monitoring_sync_operation := []
  monitoring_source_validation_evidence := []
  monitoring_resource := []
  monitoring_resource_provider_evidence := []
  metric_definition := []
  metric_definition_provider_binding := []
  metric_current_state := []
  metric_observation := []
  metric_history_stream_state := []
  metric_history_gap_evidence := []
  monitoring_problem := [⟨⟨"t", "s", fun _ => .null⟩, "p2", "resource", "generation", "active", "critical", 0⟩,
    ⟨⟨"t", "s", fun _ => .null⟩, "p1", "resource", "generation", "active", "critical", 0⟩]
  monitoring_problem_provider_binding := [⟨⟨"t", "s", fun _ => .null⟩, "p1"⟩, ⟨⟨"t", "s", fun _ => .null⟩, "p2"⟩]
  health_projection := []
  monitoring_outbox := []

/-- The times of these problems as they are written and read, and texts in the order of their characters. -/
def epochRuntime : Runtime where
  isoformat := fun _ => "1970-01-01T00:00:00+00:00"
  fromtimestamp := fun _ => "1970-01-01T00:00:00"
  timestamp := .num
  to_timestamp := intOf
  timestamptz
    | .str "1970-01-01T00:00:00+00:00" => some 0
    | _ => none
  float := some
  str := fun _ => ""
  text_le := fun a b => a ≤ b
  encode_cursor := fun _ => ""
  decode_cursor := fun _ => none
  time := 0
  untyped_null := true

theorem tiedProblems_read :
    ReadInFull (tiedProblems.list_problems "t" "s" false)
      (fun a b => a.1.before epochRuntime b.1 ∧ ¬b.1.before epochRuntime a.1)
      (fun r => .obj (problemEntries epochRuntime false r))
      (readPages epochRuntime ⟨none, some 1, none, none, none, none, none⟩ "t" tiedProblems (.problems "s")) :=
  (pages_lose_nothing epochRuntime tiedProblems
    ⟨by decide, by decide, by decide, by decide⟩
    ⟨fun p hp => by
        simp only [tiedProblems, List.mem_cons, List.not_mem_nil, or_false] at hp
        rcases hp with rfl | rfl <;> rfl,
      fun a b => (le_total a b).imp decide_eq_true decide_eq_true,
      fun _ _ _ hab hbc => decide_eq_true ((of_decide_eq_true hab).trans (of_decide_eq_true hbc)),
      fun _ _ hab hba => (of_decide_eq_true hab).antisymm (of_decide_eq_true hba)⟩
    ⟨none, some 1, none, none, none, none, none⟩ (by decide) "t" "s").1

end JLMirror.Access
