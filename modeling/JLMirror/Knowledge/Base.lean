import JLMirror.Foundations.Noninterference
import JLMirror.Foundations.Strings
import JLMirror.Foundations.Table
import JLMirror.Monitoring.Operations

/-!
# The knowledge base

`api/routers/kb.py` over the tables of `sql/g1/021_g36_knowledge_base.sql`: categories, articles and their links to
incidents. The tables have the tenant as a column and no row-level security.

## The model

* Each request is a transaction on the three tables, as lists of rows. A request brings the time of its transaction and
  the identifier that it draws, if it draws one.
* `raised` is an exception that the handler does not catch: a foreign key or a check that a statement violates.
* The collation of the database and its text search are parameters.

## Honest scope

Rows that an `ORDER BY` does not tell apart come in the order of the table. What pydantic refuses, texts with the
character zero and failures of the connection are left out, as is the reference of a row to its tenant.
-/

namespace JLMirror.Knowledge

open JLMirror.Foundations JLMirror.Monitoring

/-! ### The tables -/

/-- `g1.kb_category` -/
structure KbCategory where
  category_id : String
  tenant_id : String
  name : String
  parent_id : Option String
  slug : String
  created_at : Timestamp
  deriving DecidableEq

/-- `g1.kb_article` -/
structure KbArticle where
  article_id : String
  tenant_id : String
  category_id : Option String
  title : String
  body : String
  status : String
  tags : List String
  created_by : String
  created_at : Timestamp
  updated_at : Timestamp
  deriving DecidableEq

/-- `g1.kb_article_incident` -/
structure KbLink where
  article_id : String
  incident_id : String
  tenant_id : String
  linked_by : String
  linked_at : Timestamp
  deriving DecidableEq

structure KbDb where
  categories : List KbCategory
  articles : List KbArticle
  links : List KbLink
  deriving DecidableEq

/-! ### Texts -/

/-- `str.strip` -/
def stripped (text : String) : String := .ofList (strip text.toList)

/-- `str.lower` of a character, as far as letters and digits of ASCII go: of the others, two become such a letter. -/
def lowered (c : Char) : List Char :=
  if c.toNat = 0x130 then ['i', Char.ofNat 0x307] else if c.toNat = 0x212A then ['k'] else [c.toLower]

/-- `[a-z0-9]` -/
def slugChar (c : Char) : Bool := c.isLower || c.isDigit

/-- `re.sub(r"[^a-z0-9]+", "-", slug)`, in a run of other characters or not. -/
def dashed (inRun : Bool) : List Char → List Char
  | [] => []
  | c :: cs =>
    if slugChar c then c :: dashed false cs else if inRun then dashed true cs else '-' :: dashed true cs

/-- `.strip("-")` -/
def stripDashes (cs : List Char) : List Char := ((cs.dropWhile (· = '-')).reverse.dropWhile (· = '-')).reverse

def _slugify (name : String) : String :=
  let slug := stripDashes ((dashed false (strip (name.toList.flatMap lowered))).take 80)
  if slug = [] then "category" else .ofList slug

example : _slugify " Réseau & VPN " = "r-seau-vpn" := by decide

/-! ### The requests -/

structure CreateArticle where
  title : String
  body : String
  category_id : Option String
  status : String
  tags : List String

structure UpdateArticle where
  title : Option String
  body : Option String
  category_id : Option String
  status : Option String
  tags : Option (List String)

inductive KbRequest where
  | list_categories
  | create_category (name : String) (parent_id : Option String)
  | delete_category (category_id : String)
  | list_articles (q category_id article_status : Option String)
  | get_article (article_id : String)
  | create_article (body : CreateArticle)
  | update_article (article_id : String) (body : UpdateArticle)
  | delete_article (article_id : String)
  | link_incident (article_id incident_id : String)
  | unlink_incident (article_id incident_id : String)

/-- A request of a principal, with what the server adds. -/
structure KbCall where
  request : KbRequest
  /-- `_require_principal` -/
  principal_id : String
  /-- `now()` -/
  now : Timestamp
  /-- `uuid.uuid4()` -/
  uuid : String

/-- A row of `list_categories`. -/
structure CategoryRow where
  category_id : String
  name : String
  parent_id : Option String
  slug : String
  created_at : Timestamp
  deriving DecidableEq

/-- A row of `list_articles`. -/
structure ArticleRow where
  article_id : String
  title : String
  status : String
  category_id : Option String
  category_name : Option String
  tags : List String
  created_by : String
  created_at : Timestamp
  updated_at : Timestamp
  body_length : ℕ
  deriving DecidableEq

/-- What `get_article` shows. -/
structure ArticleView where
  article_id : String
  title : String
  body : String
  status : String
  category_id : Option String
  category_name : Option String
  tags : List String
  created_by : String
  created_at : Timestamp
  updated_at : Timestamp
  /-- `incident_id`, `linked_by` and `linked_at` -/
  incidents : List (String × String × Timestamp)
  deriving DecidableEq

inductive KbResponse where
  | categories (rows : List CategoryRow)
  | category_created (category_id name slug : String)
  | articles (rows : List ArticleRow)
  | article (view : ArticleView)
  | article_created (article_id title : String)
  | updated (article_id : String)
  | linked (article_id incident_id : String)
  | no_content
  | refused (status_code : ℕ) (detail : String)
  | raised
  deriving DecidableEq

/-! ### The queries -/

namespace KbDb

variable (tenant_id : String) (db : KbDb)

/-- `SELECT category_id … WHERE tenant_id=%s AND category_id=%s` -/
def hasCategory (category_id : String) : Bool :=
  db.categories.any fun c => c.tenant_id = tenant_id ∧ c.category_id = category_id

/-- `SELECT article_id … WHERE tenant_id=%s AND article_id=%s` -/
def hasArticle (article_id : String) : Bool :=
  db.articles.any fun a => a.tenant_id = tenant_id ∧ a.article_id = article_id

/-- The reference to a category holds. -/
def refers (category_id : Option String) : Bool :=
  category_id.all fun id => db.categories.any fun c => c.category_id = id

/-- `c.name`, of the `LEFT JOIN … ON c.category_id = a.category_id`. -/
def category_name (a : KbArticle) : Option String :=
  a.category_id.bind fun id => (db.categories.find? fun c => c.category_id = id).map (·.name)

/-- A row refers to the category, other than itself. -/
def referenced (category_id : String) : Bool :=
  (db.categories.any fun c => c.category_id ≠ category_id ∧ c.parent_id = some category_id) ||
    db.articles.any fun a => a.category_id = some category_id

/-- `SELECT incident_id, … WHERE article_id = %s ORDER BY linked_at DESC` -/
def incidents (article_id : String) : List (String × String × Timestamp) :=
  ((db.links.filter fun l => l.article_id = article_id).mergeSort fun l l' => l'.linked_at ≤ l.linked_at).map
    fun l => (l.incident_id, l.linked_by, l.linked_at)

end KbDb

/-- `('draft', 'published', 'archived')` -/
def ARTICLE_STATUSES : List String := ["draft", "published", "archived"]

/-- The columns of `list_articles`. -/
def KbArticle.row (a : KbArticle) (category_name : Option String) : ArticleRow :=
  ⟨a.article_id, a.title, a.status, a.category_id, category_name, a.tags, a.created_by, a.created_at, a.updated_at,
    a.body.length⟩

/-- The columns of `get_article`. -/
def KbArticle.view (a : KbArticle) (category_name : Option String) (incidents : List (String × String × Timestamp)) :
    ArticleView :=
  ⟨a.article_id, a.title, a.body, a.status, a.category_id, category_name, a.tags, a.created_by, a.created_at,
    a.updated_at, incidents⟩

/-- The columns of `list_categories`. -/
def KbCategory.row (c : KbCategory) : CategoryRow := ⟨c.category_id, c.name, c.parent_id, c.slug, c.created_at⟩

namespace UpdateArticle

variable (body : UpdateArticle)

/-- No field of it is set. -/
def empty : Bool :=
  body.title.isNone ∧ body.body.isNone ∧ body.category_id.isNone ∧ body.status.isNone ∧ body.tags.isNone

/-- `body.category_id or None`, in the row. -/
def category (a : KbArticle) : Option String :=
  match body.category_id with
  | some id => if id = "" then none else some id
  | none => a.category_id

/-- The `UPDATE`. -/
def set (now : Timestamp) (a : KbArticle) : KbArticle :=
  { a with
    title := (body.title.map stripped).getD a.title
    body := body.body.getD a.body
    category_id := body.category a
    status := body.status.getD a.status
    tags := body.tags.getD a.tags
    updated_at := now }

/-- The texts that refuse it: an unknown status, and a title of spaces. -/
def badStatus : Bool := body.status.any fun status => status ≠ "" ∧ status ∉ ARTICLE_STATUSES

def badTitle : Bool := body.title.any fun title => stripped title = ""

/-- The checks and the reference of the table that its `UPDATE` violates. -/
def violates (db : KbDb) : Bool :=
  body.status = some "" ∨ db.refers (body.category_id.filter (· ≠ "")) = false

end UpdateArticle

/-! ### The handlers -/

/-- How the database compares names, and its text search: `@@ plainto_tsquery('english', %s)` of title and body. -/
structure KbDatabase where
  collate : String → String → Bool
  found : String → String → String → Bool

section Handlers

variable (env : KbDatabase) (tenant_id : String)

def refuse (status_code : ℕ) (detail : String) : Program KbDb KbResponse := fun db => (.refused status_code detail, db)

def list_categories : Program KbDb KbResponse := fun db =>
  (.categories (((db.categories.filter fun c => c.tenant_id = tenant_id).mergeSort fun c c' =>
    env.collate c.name c'.name).map (·.row)), db)

/-- Its checks of the name, before the database. -/
def create_category (call : KbCall) (name : String) (parent_id : Option String) : Program KbDb KbResponse :=
  let name := stripped name
  let slug := _slugify name
  let category_id := "kbc:" ++ call.uuid
  if name = "" then refuse 422 "name is required"
  else if 120 < name.length then refuse 422 "name max 120 chars"
  else fun db =>
    if parent_id.any fun id => id ≠ "" ∧ db.hasCategory tenant_id id = false then
      refuse 404 "parent category not found" db
    else if db.categories.any fun c => c.category_id = category_id ∨ c.tenant_id = tenant_id ∧ c.slug = slug then
      refuse 409 ("slug '" ++ slug ++ "' already exists") db
    else if db.refers parent_id = false then (.raised, db)
    else
      (.category_created category_id name slug,
        { db with categories := db.categories ++ [⟨category_id, tenant_id, name, parent_id, slug, call.now⟩] })

def delete_category (category_id : String) : Program KbDb KbResponse := fun db =>
  if db.hasCategory tenant_id category_id = false then refuse 404 "category not found" db
  else if db.referenced category_id then (.raised, db)
  else (.no_content, { db with categories := db.categories.filter fun c => c.category_id ≠ category_id })

/-- The `WHERE` of `list_articles`. -/
def lists (q category_id article_status : Option String) (a : KbArticle) : Bool :=
  a.tenant_id = tenant_id ∧ (category_id.filter (· ≠ "")).all (fun id => a.category_id = some id) ∧
    (article_status.filter (· ≠ "")).all (fun status => a.status = status) ∧
    ((q.map stripped).filter (· ≠ "")).all fun q => env.found a.title a.body q

def list_articles (q category_id article_status : Option String) : Program KbDb KbResponse := fun db =>
  (.articles ((((db.articles.filter (lists env tenant_id q category_id article_status)).mergeSort
    fun a a' => a'.updated_at ≤ a.updated_at).take 200).map fun a => a.row (db.category_name a)), db)

def get_article (article_id : String) : Program KbDb KbResponse := fun db =>
  (((db.articles.find? fun a => a.tenant_id = tenant_id ∧ a.article_id = article_id).elim
    (.refused 404 "article not found") fun a =>
      .article (a.view (db.category_name a) (db.incidents article_id))), db)

def create_article (call : KbCall) (body : CreateArticle) : Program KbDb KbResponse :=
  let title := stripped body.title
  let article_id := "kba:" ++ call.uuid
  if title = "" then refuse 422 "title is required"
  else if 400 < title.length then refuse 422 "title max 400 chars"
  else if body.status ∉ ARTICLE_STATUSES then refuse 422 "status must be draft/published/archived"
  else fun db =>
    if body.category_id.any fun id => id ≠ "" ∧ db.hasCategory tenant_id id = false then
      refuse 404 "category not found" db
    else if db.refers body.category_id = false ∨ (db.articles.any fun a => a.article_id = article_id) = true then
      (.raised, db)
    else
      (.article_created article_id title,
        { db with
          articles := db.articles ++ [⟨article_id, tenant_id, body.category_id, title, body.body, body.status, body.tags,
            call.principal_id, call.now, call.now⟩] })

def update_article (call : KbCall) (article_id : String) (body : UpdateArticle) : Program KbDb KbResponse :=
  if body.badStatus then refuse 422 "invalid status"
  else fun db =>
    if db.hasArticle tenant_id article_id = false then refuse 404 "article not found" db
    else if body.badTitle then refuse 422 "title cannot be empty" db
    else if body.empty then (.updated article_id, db)
    else if body.violates db then (.raised, db)
    else
      (.updated article_id,
        { db with articles := updateWhere (fun a => a.article_id = article_id) (body.set call.now) db.articles })

/-- The links go with the article. -/
def delete_article (article_id : String) : Program KbDb KbResponse := fun db =>
  if db.hasArticle tenant_id article_id = false then refuse 404 "article not found" db
  else
    (.no_content,
      { db with
        articles := db.articles.filter fun a => a.article_id ≠ article_id
        links := db.links.filter fun l => l.article_id ≠ article_id })

def link_incident (call : KbCall) (article_id incident_id : String) : Program KbDb KbResponse :=
  let incident_id := stripped incident_id
  if incident_id = "" then refuse 422 "incident_id is required"
  else fun db =>
    if db.hasArticle tenant_id article_id = false then refuse 404 "article not found" db
    else if db.links.any fun l => l.article_id = article_id ∧ l.incident_id = incident_id then
      refuse 409 "incident already linked" db
    else
      (.linked article_id incident_id,
        { db with links := db.links ++ [⟨article_id, incident_id, tenant_id, call.principal_id, call.now⟩] })

def unlink_incident (article_id incident_id : String) : Program KbDb KbResponse := fun db =>
  (.no_content,
    { db with
      links := db.links.filter fun l =>
        ¬(l.article_id = article_id ∧ l.incident_id = incident_id ∧ l.tenant_id = tenant_id) })

/-- A request in the tenant of its context. -/
def serve (call : KbCall) : Program KbDb KbResponse :=
  if tenant_id = "" then refuse 403 "tenant context required"
  else
    match call.request with
    | .list_categories => list_categories env tenant_id
    | .create_category name parent_id => create_category tenant_id call name parent_id
    | .delete_category category_id => delete_category tenant_id category_id
    | .list_articles q category_id article_status => list_articles env tenant_id q category_id article_status
    | .get_article article_id => get_article tenant_id article_id
    | .create_article body => create_article tenant_id call body
    | .update_article article_id body => update_article tenant_id call article_id body
    | .delete_article article_id => delete_article tenant_id article_id
    | .link_incident article_id incident_id => link_incident tenant_id call article_id incident_id
    | .unlink_incident article_id incident_id => unlink_incident tenant_id article_id incident_id

end Handlers

end JLMirror.Knowledge
