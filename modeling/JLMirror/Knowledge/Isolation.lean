import JLMirror.Knowledge.Base
import Mathlib.Data.List.Find

/-!
# The knowledge bases of the tenants

A session of a tenant reads and writes the tenant's own rows of the knowledge base, but for one reference:
`update_article` stores any category that exists, and `list_articles` and `get_article` show its name.

## The model

`own` and `others` are the two parts of the tables, by the tenant of each row. `Closed` are the keys of the tables, with
references that stay inside of a tenant. `Stays` is the condition on a request: where an `UPDATE` of an article comes to
a category, it is one of the tenant.

## What is proved

* One lemma for each handler, which is confined to the own part (`confined_serve`).
* **Key result** (`knowledge_base_isolated`): the answers of a tenant's requests and its rows depend on its rows only,
  and the rows of the others stay what they were.
* `category_name_leaks`: the name of another tenant's category is read through an article.
* `update_tells_apart`: each request that does not stay tells two databases apart that differ in another tenant's rows.
-/

namespace JLMirror.Knowledge

open JLMirror.Foundations JLMirror.Monitoring

/-! ### The parts -/

namespace KbDb

/-- The rows of the tenants with `keep`. -/
def restrict (keep : String → Bool) (db : KbDb) : KbDb :=
  ⟨db.categories.filter fun c => keep c.tenant_id, db.articles.filter fun a => keep a.tenant_id,
    db.links.filter fun l => keep l.tenant_id⟩

/-- The rows of the tenant. -/
def own (tenant_id : String) (db : KbDb) : KbDb := db.restrict fun t => t = tenant_id

/-- The rows of the other tenants. -/
def others (tenant_id : String) (db : KbDb) : KbDb := db.restrict fun t => t ≠ tenant_id

/-- The keys are unique, and each reference leads to a row of the same tenant. -/
structure Closed (db : KbDb) : Prop where
  categories : (db.categories.map (·.category_id)).Nodup
  articles : (db.articles.map (·.article_id)).Nodup
  named : ∀ c ∈ db.categories, c.category_id ≠ ""
  parents : ∀ c ∈ db.categories, ∀ id, c.parent_id = some id → db.hasCategory c.tenant_id id = true
  filed : ∀ a ∈ db.articles, ∀ id, a.category_id = some id → db.hasCategory a.tenant_id id = true
  linked : ∀ l ∈ db.links, db.hasArticle l.tenant_id l.article_id = true

end KbDb

/-- What the server draws is no row's. -/
def KbCall.Fresh (db : KbDb) (call : KbCall) : Prop :=
  (∀ c ∈ db.categories, c.category_id ≠ "kbc:" ++ call.uuid) ∧ ∀ a ∈ db.articles, a.article_id ≠ "kba:" ++ call.uuid

/-- The `UPDATE` of the article is run, and no check of the table refuses its values. -/
def UpdateArticle.Reaches (tenant_id article_id : String) (db : KbDb) (body : UpdateArticle) : Prop :=
  body.badStatus = false ∧ db.hasArticle tenant_id article_id = true ∧ body.badTitle = false ∧ body.status ≠ some ""

/-- Where the request sets the category of an article, the category is one of the tenant. -/
def KbCall.Stays (tenant_id : String) (db : KbDb) (call : KbCall) : Prop :=
  match call.request with
  | .update_article article_id body =>
    body.Reaches tenant_id article_id db → ∀ id, body.category_id = some id → id ≠ "" → db.hasCategory tenant_id id = true
  | _ => True

/-- A handler is confined to the rows of its tenant. -/
abbrev OwnRows (tenant_id : String) (h : Program KbDb KbResponse) (db : KbDb) : Prop :=
  Confined (KbDb.own tenant_id) (KbDb.others tenant_id) KbDb.Closed h db

/-! ### What is read -/

section Reads

variable {tenant_id id : String} {db : KbDb}

theorem any_congr_of_mem {α : Type*} {l : List α} {p q : α → Bool} (h : ∀ x ∈ l, p x = q x) : l.any p = l.any q := by
  rw [Bool.eq_iff_iff, List.any_eq_true, List.any_eq_true]
  exact exists_congr fun x => and_congr_right fun hx => by rw [h x hx]

theorem hasCategory_own : (db.own tenant_id).hasCategory tenant_id id = db.hasCategory tenant_id id := by
  simp only [KbDb.hasCategory, KbDb.own, KbDb.restrict, List.any_filter]
  congr 1
  funext c
  simp

theorem hasArticle_own : (db.own tenant_id).hasArticle tenant_id id = db.hasArticle tenant_id id := by
  simp only [KbDb.hasArticle, KbDb.own, KbDb.restrict, List.any_filter]
  congr 1
  funext a
  simp

theorem hasCategory_iff : db.hasCategory tenant_id id = true ↔
    ∃ c ∈ db.categories, c.tenant_id = tenant_id ∧ c.category_id = id := by
  simp [KbDb.hasCategory]

theorem hasArticle_iff : db.hasArticle tenant_id id = true ↔
    ∃ a ∈ db.articles, a.tenant_id = tenant_id ∧ a.article_id = id := by
  simp [KbDb.hasArticle]

theorem KbDb.Closed.tenant_of_category (h : db.Closed) (hhas : db.hasCategory tenant_id id = true) {c : KbCategory}
    (hc : c ∈ db.categories) (hid : c.category_id = id) : c.tenant_id = tenant_id := by
  obtain ⟨c', hc', rfl, hid'⟩ := hasCategory_iff.1 hhas
  rw [eq_of_key h.categories hc hc' (hid.trans hid'.symm)]

theorem KbDb.Closed.tenant_of_article (h : db.Closed) (hhas : db.hasArticle tenant_id id = true) {a : KbArticle}
    (ha : a ∈ db.articles) (hid : a.article_id = id) : a.tenant_id = tenant_id := by
  obtain ⟨a', ha', rfl, hid'⟩ := hasArticle_iff.1 hhas
  rw [eq_of_key h.articles ha ha' (hid.trans hid'.symm)]

/-- A reference that is empty or the tenant's own. -/
theorem KbDb.Closed.refers_own (h : db.Closed) {reference : Option String}
    (hreference : ∀ id, reference = some id → id = "" ∨ db.hasCategory tenant_id id = true) :
    (db.own tenant_id).refers reference = db.refers reference := by
  cases reference with
  | none => rfl
  | some id =>
    simp only [KbDb.refers, Option.all_some, KbDb.own, KbDb.restrict, List.any_filter]
    refine any_congr_of_mem fun c hc => ?_
    rcases hreference id rfl with rfl | hhas
    · simp [h.named c hc]
    · by_cases hid : c.category_id = id
      · simp [hid, h.tenant_of_category hhas hc hid]
      · simp [hid]

/-- The name of the category of an own article. -/
theorem KbDb.Closed.category_name_own (h : db.Closed) {a : KbArticle} (ha : a ∈ db.articles)
    (hown : a.tenant_id = tenant_id) :
    (db.own tenant_id).category_name a = db.category_name a := by
  rw [KbDb.category_name, KbDb.category_name]
  cases hid : a.category_id with
  | none => rfl
  | some id =>
    have hhas := h.filed a ha id hid
    rw [hown] at hhas
    rw [Option.bind_some, Option.bind_some, KbDb.own, KbDb.restrict, List.find?_filter]
    congr 1
    refine List.find?_congr fun c hc => ?_
    by_cases hc' : c.category_id = id
    · simp [hc', h.tenant_of_category hhas hc hc']
    · simp [hc']

theorem KbDb.Closed.links_own (h : db.Closed) (hhas : db.hasArticle tenant_id id = true) :
    ((db.own tenant_id).links.filter fun l => l.article_id = id) = db.links.filter fun l => l.article_id = id := by
  rw [KbDb.own, KbDb.restrict, List.filter_filter]
  refine List.filter_congr fun l hl => ?_
  by_cases hid : l.article_id = id
  · obtain ⟨a, ha, htenant, harticle⟩ := hasArticle_iff.1 (h.linked l hl)
    simp [hid, ← htenant, h.tenant_of_article hhas ha (harticle.trans hid)]
  · simp [hid]

/-- No other row refers to an own category. -/
theorem KbDb.Closed.referenced_own (h : db.Closed) (hhas : db.hasCategory tenant_id id = true) :
    (db.own tenant_id).referenced id = db.referenced id := by
  rw [KbDb.referenced, KbDb.referenced, KbDb.own, KbDb.restrict, List.any_filter, List.any_filter]
  congr 1
  · refine any_congr_of_mem fun c hc => ?_
    by_cases hparent : c.parent_id = some id
    · obtain ⟨c', hc', htenant, hid⟩ := hasCategory_iff.1 (h.parents c hc id hparent)
      simp [← htenant, h.tenant_of_category hhas hc' hid]
    · simp [hparent]
  · refine any_congr_of_mem fun a ha => ?_
    by_cases hcategory : a.category_id = some id
    · obtain ⟨c', hc', htenant, hid⟩ := hasCategory_iff.1 (h.filed a ha id hcategory)
      simp [← htenant, h.tenant_of_category hhas hc' hid]
    · simp [hcategory]

end Reads

/-! ### What is written -/

section Writes

variable {tenant_id id : String} {db : KbDb} {keep : String → Bool}

theorem KbDb.Closed.insert_category (h : db.Closed) {c : KbCategory}
    (hfresh : ∀ c' ∈ db.categories, c'.category_id ≠ c.category_id) (hnamed : c.category_id ≠ "") (hparent : ∀ id, c.parent_id = some id → db.hasCategory c.tenant_id id = true) :
    ({ db with categories := db.categories ++ [c] } : KbDb).Closed where
  categories := by
    exact nodup_map_append_new h.categories hfresh
  articles := h.articles
  named := by
    intro c' hc'
    rcases List.mem_append.1 hc' with hc' | hc'
    · exact h.named c' hc'
    · rwa [List.mem_singleton.1 hc']
  parents := by
    intro c' hc' id hid
    have hhas : db.hasCategory c'.tenant_id id = true := by
      rcases List.mem_append.1 hc' with hc' | hc'
      · exact h.parents c' hc' id hid
      · rw [List.mem_singleton.1 hc'] at hid ⊢
        exact hparent id hid
    rw [hasCategory_iff] at hhas ⊢
    exact hhas.imp fun _ hc => ⟨List.mem_append_left _ hc.1, hc.2⟩
  filed := by
    intro a ha id hid
    have hhas := h.filed a ha id hid
    rw [hasCategory_iff] at hhas ⊢
    exact hhas.imp fun _ hc => ⟨List.mem_append_left _ hc.1, hc.2⟩
  linked := h.linked

theorem KbDb.Closed.insert_article (h : db.Closed) {a : KbArticle}
    (hfresh : ∀ a' ∈ db.articles, a'.article_id ≠ a.article_id)
    (hfiled : ∀ id, a.category_id = some id → db.hasCategory a.tenant_id id = true) :
    ({ db with articles := db.articles ++ [a] } : KbDb).Closed where
  categories := h.categories
  articles := by
    exact nodup_map_append_new h.articles hfresh
  named := h.named
  parents := h.parents
  filed := by
    intro a' ha' id hid
    rcases List.mem_append.1 ha' with ha' | ha'
    · exact h.filed a' ha' id hid
    · rw [List.mem_singleton.1 ha'] at hid ⊢
      exact hfiled id hid
  linked := by
    intro l hl
    have hhas := h.linked l hl
    rw [hasArticle_iff] at hhas ⊢
    exact hhas.imp fun _ ha => ⟨List.mem_append_left _ ha.1, ha.2⟩

theorem KbDb.Closed.insert_link (h : db.Closed) {l : KbLink} (hhas : db.hasArticle l.tenant_id l.article_id = true) :
    ({ db with links := db.links ++ [l] } : KbDb).Closed where
  categories := h.categories
  articles := h.articles
  named := h.named
  parents := h.parents
  filed := h.filed
  linked := by
    intro l' hl'
    rcases List.mem_append.1 hl' with hl' | hl'
    · exact h.linked l' hl'
    · rw [List.mem_singleton.1 hl']
      exact hhas

theorem KbDb.Closed.delete_category (h : db.Closed) (hfree : db.referenced id = false) :
    ({ db with categories := db.categories.filter fun c => c.category_id ≠ id } : KbDb).Closed where
  categories := h.categories.sublist (List.filter_sublist.map _)
  articles := h.articles
  named := fun c hc => h.named c (List.mem_of_mem_filter hc)
  parents := by
    intro c hc id' hid'
    rw [List.mem_filter, decide_eq_true_eq] at hc
    have hhas := h.parents c hc.1 id' hid'
    have hne : id' ≠ id := by
      rintro rfl
      simp only [KbDb.referenced, Bool.or_eq_false_iff, List.any_eq_false, decide_eq_true_eq] at hfree
      exact hfree.1 c hc.1 ⟨hc.2, hid'⟩
    rw [hasCategory_iff] at hhas ⊢
    obtain ⟨c', hc', htenant, hc''⟩ := hhas
    exact ⟨c', List.mem_filter.2 ⟨hc', by simp [hc'', hne]⟩, htenant, hc''⟩
  filed := by
    intro a ha id' hid'
    have hhas := h.filed a ha id' hid'
    have hne : id' ≠ id := by
      rintro rfl
      simp only [KbDb.referenced, Bool.or_eq_false_iff, List.any_eq_false, decide_eq_true_eq] at hfree
      exact hfree.2 a ha hid'
    rw [hasCategory_iff] at hhas ⊢
    obtain ⟨c', hc', htenant, hc''⟩ := hhas
    exact ⟨c', List.mem_filter.2 ⟨hc', by simp [hc'', hne]⟩, htenant, hc''⟩
  linked := h.linked

theorem KbDb.Closed.delete_article (h : db.Closed) :
    ({ db with
        articles := db.articles.filter fun a => a.article_id ≠ id
        links := db.links.filter fun l => l.article_id ≠ id } : KbDb).Closed where
  categories := h.categories
  articles := h.articles.sublist (List.filter_sublist.map _)
  named := h.named
  parents := h.parents
  filed := fun a ha => h.filed a (List.mem_of_mem_filter ha)
  linked := by
    intro l hl
    rw [List.mem_filter, decide_eq_true_eq] at hl
    have hhas := h.linked l hl.1
    rw [hasArticle_iff] at hhas ⊢
    obtain ⟨a, ha, htenant, hid⟩ := hhas
    exact ⟨a, List.mem_filter.2 ⟨ha, by simp [hid, hl.2]⟩, htenant, hid⟩

theorem KbDb.Closed.delete_links (h : db.Closed) {p : KbLink → Bool} :
    ({ db with links := db.links.filter p } : KbDb).Closed where
  categories := h.categories
  articles := h.articles
  named := h.named
  parents := h.parents
  filed := h.filed
  linked := fun l hl => h.linked l (List.mem_of_mem_filter hl)

/-- An update of articles that keeps their keys and files them in their tenants. -/
theorem KbDb.Closed.update_articles (h : db.Closed) {p : KbArticle → Bool} {f : KbArticle → KbArticle}
    (hkey : ∀ a, (f a).article_id = a.article_id ∧ (f a).tenant_id = a.tenant_id)
    (hfiled : ∀ a ∈ db.articles, p a = true → ∀ id, (f a).category_id = some id → db.hasCategory a.tenant_id id = true) :
    ({ db with articles := updateWhere p f db.articles } : KbDb).Closed where
  categories := h.categories
  articles := by
    rw [map_updateWhere fun a => (hkey a).1]
    exact h.articles
  named := h.named
  parents := h.parents
  filed := by
    intro a ha id hid
    obtain ⟨a', ha', rfl⟩ := mem_updateWhere.1 ha
    by_cases hp : p a' = true
    · rw [if_pos hp] at hid ⊢
      rw [(hkey a').2]
      exact hfiled a' ha' hp id hid
    · rw [if_neg hp] at hid ⊢
      exact h.filed a' ha' id hid
  linked := by
    intro l hl
    have hhas := h.linked l hl
    rw [hasArticle_iff] at hhas ⊢
    obtain ⟨a, ha, htenant, hid⟩ := hhas
    refine ⟨_, mem_updateWhere.2 ⟨a, ha, rfl⟩, ?_⟩
    split_ifs
    · exact ⟨(hkey a).2.trans htenant, (hkey a).1.trans hid⟩
    · exact ⟨htenant, hid⟩

end Writes

/-! ### The handlers -/

section Handlers

variable {env : KbDatabase} {tenant_id : String} {db : KbDb} {call : KbCall}

theorem filter_filter_of_kept {α : Type*} {p q : α → Bool} {l : List α} (h : ∀ x ∈ l, q x = true → p x = true) :
    (l.filter p).filter q = l.filter q := by
  rw [List.filter_filter]
  refine List.filter_congr fun x hx => ?_
  cases hq : q x with
  | true => rw [h x hx hq, Bool.and_self]
  | false => rw [Bool.false_and]

theorem confined_refuse {status_code : ℕ} {detail : String} (h : db.Closed) :
    OwnRows tenant_id (refuse status_code detail) db :=
  confined_const h

theorem confined_list_categories (h : db.Closed) : OwnRows tenant_id (list_categories env tenant_id) db := by
  refine confined_reply h ?_
  simp [KbDb.own, KbDb.restrict, List.filter_filter]

variable {reference : Option String}

/-- A reference that the handler has looked up, where the database has accepted it, is the tenant's. -/
theorem KbDb.Closed.hasCategory_of_refers (h : db.Closed)
    (hown : ∀ id, reference = some id → id = "" ∨ db.hasCategory tenant_id id = true)
    (hrefers : ¬db.refers reference = false) {id : String} (hid : reference = some id) :
    db.hasCategory tenant_id id = true := by
  subst hid
  rcases hown id rfl with rfl | hhas
  · refine absurd ?_ hrefers
    rw [KbDb.refers, Option.all_some, List.any_eq_false]
    exact fun c hc => by simpa using h.named c hc
  · exact hhas

theorem own_of_looked_up (hlooked : ¬(reference.any fun id => id ≠ "" ∧ db.hasCategory tenant_id id = false) = true) :
    ∀ id, reference = some id → id = "" ∨ db.hasCategory tenant_id id = true := by
  rintro id rfl
  by_cases hid : id = ""
  · exact .inl hid
  · exact .inr (by simpa [hid] using hlooked)

theorem confined_create_category {name : String} {parent_id : Option String} (h : db.Closed) (hfresh : call.Fresh db) :
    OwnRows tenant_id (create_category tenant_id call name parent_id) db := by
  rw [create_category]
  split_ifs
  · exact confined_refuse h
  · exact confined_refuse h
  · refine confined_ite (by simp only [hasCategory_own]) (fun _ => confined_refuse h) fun hparent => ?_
    have hown := own_of_looked_up hparent
    refine confined_ite ?_ (fun _ => confined_refuse h) fun _ => ?_
    · rw [KbDb.own, KbDb.restrict, List.any_filter, any_congr_of_mem]
      intro c hc
      have hne := hfresh.1 c hc
      by_cases htenant : c.tenant_id = tenant_id <;> simp [htenant, hne]
    refine confined_ite (by rw [h.refers_own hown]) (fun _ => confined_const h) fun hrefers => ?_
    refine confined_write (by simp [KbDb.own, KbDb.restrict]) (by simp [KbDb.others, KbDb.restrict]) ?_
    exact h.insert_category hfresh.1 (by simp) fun id hid => h.hasCategory_of_refers hown hrefers hid

theorem confined_delete_category {category_id : String} (h : db.Closed) :
    OwnRows tenant_id (delete_category tenant_id category_id) db := by
  refine confined_ite (by rw [hasCategory_own]) (fun _ => confined_refuse h) fun hhas => ?_
  rw [Bool.not_eq_false] at hhas
  refine confined_ite (by rw [h.referenced_own hhas]) (fun _ => confined_const h) fun hfree => ?_
  refine confined_write ?_ ?_ (h.delete_category (Bool.not_eq_true _ ▸ hfree))
  · simp only [KbDb.own, KbDb.restrict, List.filter_comm]
  · simp only [KbDb.others, KbDb.restrict]
    congr 1
    refine filter_filter_of_kept fun c hc htenant => ?_
    rw [decide_eq_true_eq] at htenant ⊢
    exact fun hid => htenant (h.tenant_of_category hhas hc hid)

theorem confined_list_articles {q category_id article_status : Option String} (h : db.Closed) :
    OwnRows tenant_id (list_articles env tenant_id q category_id article_status) db := by
  refine confined_reply h ?_
  have hrows : (db.own tenant_id).articles.filter (lists env tenant_id q category_id article_status) =
      db.articles.filter (lists env tenant_id q category_id article_status) := by
    rw [KbDb.own, KbDb.restrict, List.filter_filter]
    refine List.filter_congr fun a _ => ?_
    by_cases htenant : a.tenant_id = tenant_id <;> simp [lists, htenant]
  rw [hrows]
  congr 1
  refine List.map_congr_left fun a ha => ?_
  have hlisted := List.mem_filter.1 (List.mem_mergeSort.1 (List.mem_of_mem_take ha))
  have hown : a.tenant_id = tenant_id := by
    have hlists := hlisted.2
    rw [lists, decide_eq_true_eq] at hlists
    exact hlists.1
  rw [h.category_name_own hlisted.1 hown]

variable {article_id : String}

theorem confined_get_article (h : db.Closed) : OwnRows tenant_id (get_article tenant_id article_id) db := by
  refine confined_reply h ?_
  have hfind : ((db.own tenant_id).articles.find? fun a => a.tenant_id = tenant_id ∧ a.article_id = article_id) =
      db.articles.find? fun a => a.tenant_id = tenant_id ∧ a.article_id = article_id := by
    rw [KbDb.own, KbDb.restrict, List.find?_filter]
    congr 1
    funext a
    simp
  rw [hfind]
  cases hfound : db.articles.find? fun a => a.tenant_id = tenant_id ∧ a.article_id = article_id with
  | none => rfl
  | some a =>
    have ha := List.mem_of_find?_eq_some hfound
    have hkeys := List.find?_some hfound
    rw [decide_eq_true_eq] at hkeys
    have hlinks := h.links_own (hasArticle_iff.2 ⟨a, ha, hkeys⟩)
    rw [Option.elim_some, Option.elim_some, h.category_name_own ha hkeys.1, KbDb.incidents, KbDb.incidents, hlinks]

theorem confined_create_article {body : CreateArticle} (h : db.Closed) (hfresh : call.Fresh db) :
    OwnRows tenant_id (create_article tenant_id call body) db := by
  rw [create_article]
  split_ifs
  · exact confined_refuse h
  · exact confined_refuse h
  · refine confined_ite (by simp only [hasCategory_own]) (fun _ => confined_refuse h) fun hcategory => ?_
    have hown := own_of_looked_up hcategory
    have hnew : (db.articles.any fun a => a.article_id = "kba:" ++ call.uuid) = false := by
      rw [List.any_eq_false]
      exact fun a ha => by simpa using hfresh.2 a ha
    have hnew' : ((db.own tenant_id).articles.any fun a => a.article_id = "kba:" ++ call.uuid) = false := by
      rw [List.any_eq_false]
      exact fun a ha => by simpa using hfresh.2 a (List.mem_of_mem_filter ha)
    refine confined_ite (by rw [h.refers_own hown, hnew, hnew']) (fun _ => confined_const h) fun hrefers => ?_
    rw [not_or] at hrefers
    refine confined_write (by simp [KbDb.own, KbDb.restrict]) (by simp [KbDb.others, KbDb.restrict]) ?_
    exact h.insert_article hfresh.2 fun id hid => h.hasCategory_of_refers hown hrefers.1 hid
  · exact confined_refuse h

theorem confined_update_article {body : UpdateArticle} (h : db.Closed)
    (hstays : body.Reaches tenant_id article_id db →
      ∀ id, body.category_id = some id → id ≠ "" → db.hasCategory tenant_id id = true) :
    OwnRows tenant_id (update_article tenant_id call article_id body) db := by
  by_cases hstatus : body.badStatus = true
  · rw [update_article, if_pos hstatus]
    exact confined_refuse h
  · rw [update_article, if_neg hstatus]
    refine confined_ite (by rw [hasArticle_own]) (fun _ => confined_refuse h) fun hhas => ?_
    refine confined_ite Iff.rfl (fun _ => confined_refuse h) fun htitle => ?_
    refine confined_ite Iff.rfl (fun _ => confined_const h) fun _ => ?_
    rw [Bool.not_eq_false] at hhas
    by_cases hempty : body.status = some ""
    · -- the check of the status refuses it, whatever the category is
      refine confined_ite (by simp [UpdateArticle.violates, hempty]) (fun _ => confined_const h) fun hok => ?_
      exact absurd (by simp [UpdateArticle.violates, hempty]) hok
    have hown : ∀ id, body.category_id.filter (· ≠ "") = some id → id = "" ∨ db.hasCategory tenant_id id = true := by
      intro id hid
      rw [Option.filter_eq_some_iff, decide_eq_true_eq] at hid
      refine .inr (hstays ⟨?_, hhas, ?_, hempty⟩ id hid.1 hid.2)
      · exact Bool.not_eq_true _ ▸ hstatus
      · exact Bool.not_eq_true _ ▸ htitle
    refine confined_ite (by rw [UpdateArticle.violates, UpdateArticle.violates, h.refers_own hown])
      (fun _ => confined_const h) fun hok => ?_
    have hown' : ∀ a ∈ db.articles, a.article_id = article_id → a.tenant_id = tenant_id :=
      fun a ha hid => h.tenant_of_article hhas ha hid
    refine confined_write ?_ ?_ (h.update_articles (fun _ => ⟨rfl, rfl⟩) ?_)
    · simp only [KbDb.own, KbDb.restrict]
      congr 1
      have hkeep : ∀ a, decide ((body.set call.now a).tenant_id = tenant_id) = decide (a.tenant_id = tenant_id) :=
        fun _ => rfl
      exact (updateWhere_filter hkeep).symm
    · simp only [KbDb.others, KbDb.restrict]
      congr 1
      refine filter_updateWhere fun a ha hid => ?_
      have htenant := hown' a ha (of_decide_eq_true hid)
      exact ⟨by simp [htenant], by simp [UpdateArticle.set, htenant]⟩
    · intro a ha hid id hset
      rw [decide_eq_true_eq] at hid
      change body.category a = some id at hset
      rw [UpdateArticle.category] at hset
      cases hcategory : body.category_id with
      | none =>
        rw [hcategory] at hset
        exact h.filed a ha id hset
      | some id' =>
        have hset : (if id' = "" then none else some id') = some id := by simpa only [hcategory] using hset
        by_cases hid' : id' = ""
        · simp [hid'] at hset
        · rw [if_neg hid', Option.some_inj] at hset
          subst hset
          rw [hown' a ha hid]
          exact (hown id' (by simp [hcategory, hid'])).resolve_left hid'

theorem confined_delete_article (h : db.Closed) : OwnRows tenant_id (delete_article tenant_id article_id) db := by
  refine confined_ite (by rw [hasArticle_own]) (fun _ => confined_refuse h) fun hhas => ?_
  rw [Bool.not_eq_false] at hhas
  refine confined_write ?_ ?_ h.delete_article
  · simp only [KbDb.own, KbDb.restrict, List.filter_comm]
  · simp only [KbDb.others, KbDb.restrict]
    congr 1
    · refine filter_filter_of_kept fun a ha htenant => ?_
      rw [decide_eq_true_eq] at htenant ⊢
      exact fun hid => htenant (h.tenant_of_article hhas ha hid)
    · refine filter_filter_of_kept fun l hl htenant => ?_
      rw [decide_eq_true_eq] at htenant ⊢
      intro hid
      obtain ⟨a, ha, hsame, harticle⟩ := hasArticle_iff.1 (h.linked l hl)
      exact htenant (hsame.symm.trans (h.tenant_of_article hhas ha (harticle.trans hid)))

theorem confined_link_incident {incident_id : String} (h : db.Closed) :
    OwnRows tenant_id (link_incident tenant_id call article_id incident_id) db := by
  rw [link_incident]
  split_ifs
  · exact confined_refuse h
  · refine confined_ite (by rw [hasArticle_own]) (fun _ => confined_refuse h) fun hhas => ?_
    rw [Bool.not_eq_false] at hhas
    refine confined_ite ?_ (fun _ => confined_refuse h) fun _ => ?_
    · have hlinks := congrArg (·.any fun l => l.incident_id = stripped incident_id) (h.links_own hhas)
      simp only [List.any_filter] at hlinks
      simp only [Bool.decide_and, hlinks]
    refine confined_write (by simp [KbDb.own, KbDb.restrict]) (by simp [KbDb.others, KbDb.restrict]) ?_
    exact h.insert_link hhas

theorem confined_unlink_incident {incident_id : String} (h : db.Closed) :
    OwnRows tenant_id (unlink_incident tenant_id article_id incident_id) db := by
  refine confined_write ?_ ?_ h.delete_links
  · simp only [KbDb.own, KbDb.restrict, List.filter_comm]
  · simp only [KbDb.others, KbDb.restrict]
    congr 1
    refine filter_filter_of_kept fun l _ htenant => ?_
    rw [decide_eq_true_eq] at htenant ⊢
    exact fun hl => htenant hl.2.2

/-- A request that stays in its tenant is confined to the rows of it. -/
theorem confined_serve (h : db.Closed) (hfresh : call.Fresh db) (hstays : call.Stays tenant_id db) :
    OwnRows tenant_id (serve env tenant_id call) db := by
  rw [serve]
  split_ifs
  · exact confined_refuse h
  unfold KbCall.Stays at hstays
  cases hrequest : call.request with
  | list_categories => exact confined_list_categories h
  | create_category name parent_id => exact confined_create_category h hfresh
  | delete_category category_id => exact confined_delete_category h
  | list_articles q category_id article_status => exact confined_list_articles h
  | get_article article_id => exact confined_get_article h
  | create_article body => exact confined_create_article h hfresh
  | update_article article_id body =>
    rw [hrequest] at hstays
    exact confined_update_article h hstays
  | delete_article article_id => exact confined_delete_article h
  | link_incident article_id incident_id => exact confined_link_incident h
  | unlink_incident article_id incident_id => exact confined_unlink_incident h

end Handlers

/-! ### The claim -/

/-- On two databases a tenant's requests are answered the same and leave it with the same rows, and the rows of the
others stay what they were. -/
def KbIsolated (env : KbDatabase) (tenant_id : String) (run : List KbCall) (db db' : KbDb) : Prop :=
  (answers (serve env tenant_id) run db).1 = (answers (serve env tenant_id) run db').1 ∧
    (answers (serve env tenant_id) run db).2.own tenant_id = (answers (serve env tenant_id) run db').2.own tenant_id ∧
      (answers (serve env tenant_id) run db).2.others tenant_id = db.others tenant_id

/-- Each request of the run, in the state it finds. -/
def EachCall (env : KbDatabase) (tenant_id : String) (ok : KbDb → KbCall → Prop) (db : KbDb) (run : List KbCall) : Prop :=
  Guarded (fun db call => (serve env tenant_id call db).2) ok db run

/-- The knowledge base is isolated in runs of a tenant's requests that draw fresh identifiers and stay in the tenant, on
databases whose references do. -/
theorem knowledge_base_isolated (env : KbDatabase) (tenant_id : String) (run : List KbCall) (db db' : KbDb)
    (hclosed : db.Closed) (hclosed' : db'.Closed) (hown : db.own tenant_id = db'.own tenant_id)
    (hrun : EachCall env tenant_id (fun db call => call.Fresh db ∧ call.Stays tenant_id db) db run)
    (hrun' : EachCall env tenant_id (fun db call => call.Fresh db ∧ call.Stays tenant_id db) db' run) :
    KbIsolated env tenant_id run db db' :=
  confined_runs (fun _ _ h hok => confined_serve h hok.1 hok.2) hclosed hclosed' hrun hrun' hown

instance {db : KbDb} {call : KbCall} : Decidable (call.Fresh db) := inferInstanceAs (Decidable (_ ∧ _))

/-- A database that compares all names as equal and finds every text. -/
def plainDatabase : KbDatabase := ⟨fun _ _ => true, fun _ _ _ => true⟩

/-- An article of the tenant `A`, and a category of the tenant `B`. -/
def twoTenants (name : String) : KbDb :=
  ⟨[⟨"kbc:a", "A", "own", none, "own", 0⟩, ⟨"kbc:b", "B", name, none, "b", 0⟩],
    [⟨"kba:a", "A", none, "title", "", "draft", [], "p", 0, 0⟩], []⟩

theorem twoTenants_closed (name : String) : (twoTenants name).Closed where
  categories := by simp [twoTenants]
  articles := by simp [twoTenants]
  named := by simp [twoTenants]
  parents := by simp [twoTenants]
  filed := by simp [twoTenants]
  linked := by simp [twoTenants]

/-- The article is filed under a category, and read. -/
def filedUnder (category_id : String) : List KbCall :=
  [⟨.update_article "kba:a" ⟨none, none, some category_id, none, none⟩, "p", 1, "1"⟩, ⟨.get_article "kba:a", "p", 2, "2"⟩]

theorem stays_filedUnder (name : String) : ∀ call ∈ filedUnder "kbc:a", call.Stays "A" (twoTenants name) := by
  simp only [filedUnder, List.forall_mem_cons, KbCall.Stays]
  refine ⟨fun _ id hid _ => ?_, trivial, by simp⟩
  cases hid
  rfl

theorem filedUnder_own : KbIsolated plainDatabase "A" (filedUnder "kbc:a") (twoTenants "one") (twoTenants "two") :=
  knowledge_base_isolated _ _ _ _ _ (twoTenants_closed "one") (twoTenants_closed "two") (by decide)
    ⟨⟨by decide, stays_filedUnder "one" _ (by simp [filedUnder])⟩, ⟨by decide, trivial⟩, trivial⟩
    ⟨⟨by decide, stays_filedUnder "two" _ (by simp [filedUnder])⟩, ⟨by decide, trivial⟩, trivial⟩

/-- The tenant `A` reads the name of the category of `B`. -/
theorem category_name_leaks : (twoTenants "one").Closed ∧ (twoTenants "two").Closed ∧
    (twoTenants "one").own "A" = (twoTenants "two").own "A" ∧
    EachCall plainDatabase "A" (fun db call => call.Fresh db) (twoTenants "one") (filedUnder "kbc:b") ∧
    EachCall plainDatabase "A" (fun db call => call.Fresh db) (twoTenants "two") (filedUnder "kbc:b") ∧
    ¬KbIsolated plainDatabase "A" (filedUnder "kbc:b") (twoTenants "one") (twoTenants "two") :=
  ⟨twoTenants_closed "one", twoTenants_closed "two", by decide, by unfold EachCall; decide, by unfold EachCall; decide,
    fun h => absurd h.1 (by decide)⟩

/-! ### The requests that do not stay -/

section Foreign

variable {tenant_id : String} {db : KbDb}

/-- The own rows refer to each other only. -/
theorem KbDb.Closed.own (h : db.Closed) : (db.own tenant_id).Closed where
  categories := h.categories.sublist (List.filter_sublist.map _)
  articles := h.articles.sublist (List.filter_sublist.map _)
  named := fun c hc => h.named c (List.mem_of_mem_filter hc)
  parents := by
    intro c hc id hid
    obtain ⟨hc, htenant⟩ := List.mem_filter.1 hc
    rw [of_decide_eq_true htenant, hasCategory_own, ← of_decide_eq_true htenant]
    exact h.parents c hc id hid
  filed := by
    intro a ha id hid
    obtain ⟨ha, htenant⟩ := List.mem_filter.1 ha
    rw [of_decide_eq_true htenant, hasCategory_own, ← of_decide_eq_true htenant]
    exact h.filed a ha id hid
  linked := by
    intro l hl
    obtain ⟨hl, htenant⟩ := List.mem_filter.1 hl
    rw [of_decide_eq_true htenant, hasArticle_own, ← of_decide_eq_true htenant]
    exact h.linked l hl

/-- A request that does not stay is answered differently on two databases with the same rows of the tenant. -/
theorem update_tells_apart {env : KbDatabase} {call : KbCall} (h : db.Closed) (htenant : tenant_id ≠ "")
    (hleaves : ¬call.Stays tenant_id db) : ∃ db₁ db₂ : KbDb, db₁.Closed ∧ db₂.Closed ∧
      db₁.own tenant_id = db.own tenant_id ∧ db₂.own tenant_id = db.own tenant_id ∧
        (serve env tenant_id call db₁).1 ≠ (serve env tenant_id call db₂).1 := by
  unfold KbCall.Stays at hleaves
  cases hrequest : call.request with
  | update_article article_id body =>
    rw [hrequest] at hleaves
    simp only [Classical.not_forall] at hleaves
    obtain ⟨⟨hstatus, hhas, htitle, hempty⟩, id, hcategory, hid, hforeign⟩ := hleaves
    -- the tenant alone, and with a tenant that has the category
    let c : KbCategory := ⟨id, tenant_id ++ "'", "name", none, "slug", 0⟩
    let db₂ : KbDb := { db.own tenant_id with categories := (db.own tenant_id).categories ++ [c] }
    have hfresh : ∀ c' ∈ (db.own tenant_id).categories, c'.category_id ≠ id := by
      intro c' hc' hid'
      obtain ⟨hc', htenant'⟩ := List.mem_filter.1 hc'
      exact hforeign (hasCategory_iff.2 ⟨c', hc', of_decide_eq_true htenant', hid'⟩)
    have hclosed₂ : db₂.Closed := h.own.insert_category hfresh hid (by simp [c])
    have hown : (db.own tenant_id).own tenant_id = db.own tenant_id := by
      simp [KbDb.own, KbDb.restrict, List.filter_filter]
    have hown₂ : db₂.own tenant_id = db.own tenant_id := by
      simp [db₂, c, KbDb.own, KbDb.restrict, List.filter_filter]
    have hhas₁ : (db.own tenant_id).hasArticle tenant_id article_id = true := hasArticle_own.trans hhas
    have hhas₂ : db₂.hasArticle tenant_id article_id = true := hhas₁
    have hset : body.empty = false := by simp [UpdateArticle.empty, hcategory]
    have hviolates₁ : body.violates (db.own tenant_id) = true := by
      simp only [UpdateArticle.violates, hcategory, KbDb.refers, Bool.decide_or, Bool.or_eq_true, decide_eq_true_eq]
      simpa [hid] using .inr hfresh
    have hviolates₂ : body.violates db₂ = false := by
      simp [UpdateArticle.violates, hcategory, hid, hempty, KbDb.refers, db₂, c]
    refine ⟨db.own tenant_id, db₂, h.own, hclosed₂, hown, hown₂, ?_⟩
    simp [serve, htenant, hrequest, update_article, hstatus, htitle, hset, hhas₁, hhas₂, hviolates₁, hviolates₂]
  | _ =>
    rw [hrequest] at hleaves
    exact absurd trivial hleaves

end Foreign

end JLMirror.Knowledge
