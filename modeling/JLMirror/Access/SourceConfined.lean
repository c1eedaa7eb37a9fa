import Mathlib.Data.Fintype.EquivFin
import JLMirror.Access.ReadOnly
import JLMirror.Access.SourceScope

/-!
# Reads within the granted sources

A grant can name the sources that it is for. `verify_context` compares them with the source that the path of
a request names; a path that names none is not compared with anything.

## The model

* `DelegatedOnly` is a principal all of whose authorities in a tenant are grants for some sources.
* `SourceConfined` compares the answers on two states of the tables that have the same part of those sources.

## What is proved

* **Key result** (`source_match_of_read`): a read that names a source has it in its path where the gate finds it.
* **Key result** (`source_confined_iff`): the answer comes from the granted sources unless the request lists every
  source or the messages of the outbox and is let through.
* **Key result** (`foreign_source_listed`): with a grant for one source, the list shows another one.

## Honest scope

The tables are those that the workers leave (`Integral`), and the request is made in a tenant: in development
a session without one reads what it asks for.
-/

namespace JLMirror.Access

/-! ### The path of a read -/

variable {params : List String}

theorem matchPath_literal {pats path : Path} (hpats : ∀ pat ∈ pats, isParam pat = false)
    (h : matchPath pats path = some params) : path = pats := by
  induction pats generalizing path params with
  | nil =>
    cases path with
    | nil => rfl
    | cons seg segs => simp [matchPath] at h
  | cons pat pats ih =>
    obtain ⟨segs, rfl, hrest⟩ := matchPath_cons (hpats pat (List.mem_cons_self ..)) h
    rw [ih (fun p hp => hpats p (List.mem_cons_of_mem _ hp)) hrest]

/-- A parameter takes a segment that is not empty. -/
theorem matchPath_param {pat : String} (hpat : isParam pat = true) (hrest : isRest pat = false) {pats path : Path}
    (h : matchPath (pat :: pats) path = some params) :
    ∃ seg segs rest, path = seg :: segs ∧ seg ≠ "" ∧ params = seg :: rest ∧ matchPath pats segs = some rest := by
  cases path with
  | nil => simp [matchPath] at h
  | cons seg segs =>
    rw [matchPath, hrest, hpat] at h
    simp only [Bool.false_eq_true, if_false, if_true] at h
    split_ifs at h with hne
    obtain ⟨rest, hr, rfl⟩ := Option.map_eq_some_iff.1 h
    exact ⟨seg, segs, rest, rfl, hne, rfl, hr⟩

theorem source_of_ite {c : Prop} [Decidable c] {a b : MonitoringRead} {e : Option MonitoringRead} {source : Option String}
    (h : (if c then some a else e) = some b) (ha : a.source? = source) (he : e = some b → b.source? = source) :
    b.source? = source := by
  split at h
  · exact Option.some.inj h ▸ ha
  · exact he h

variable {read : MonitoringRead}

/-- The source that a read names is the first parameter of its path. -/
theorem source_of_params {handler : String} (h : MonitoringRead.ofRoute handler params = some read) :
    read.source? = params.head? := by
  match params with
  | [] =>
    refine source_of_ite h rfl fun h => ?_
    exact source_of_ite h rfl nofun
  | [_] =>
    iterate 9 refine source_of_ite h rfl fun h => ?_
    exact source_of_ite h rfl nofun
  | [_, _] =>
    iterate 3 refine source_of_ite h rfl fun h => ?_
    exact source_of_ite h rfl nofun
  | _ :: _ :: _ :: _ => exact nomatch h

/-- What stands in front of the source. -/
def sourcesPath : Path := ["api", "v1", "monitoring", "sources"]

theorem isSome_ite_some {α : Type} {c : Prop} [Decidable c] {a : α} {e : Option α} :
    (if c then some a else e).isSome = (decide c || e.isSome) := by
  by_cases h : c <;> simp [h]

/-- Whether a handler reads does not depend on the values of the parameters. -/
theorem ofRoute_isSome {handler : String} :
    (MonitoringRead.ofRoute handler params).isSome =
      (MonitoringRead.ofRoute handler (params.map fun _ => "")).isSome := by
  match params with
  | [] => rfl
  | [_] => simp only [MonitoringRead.ofRoute, List.map, isSome_ite_some]
  | [_, _] => simp only [MonitoringRead.ofRoute, List.map, isSome_ite_some]
  | _ :: _ :: _ :: _ => rfl

/-- The routes of the reads that name a source have it after `/api/v1/monitoring/sources/`. -/
theorem source_routes : ∀ r ∈ ROUTES, (MonitoringRead.ofRoute r.handler [""]).isSome = true ∨
    (MonitoringRead.ofRoute r.handler ["", ""]).isSome = true →
      r.pattern.take 4 = sourcesPath ∧ (r.pattern.drop 4).head?.any (fun pat => isParam pat && !isRest pat) = true := by
  decide +kernel

theorem listing_routes : ∀ r ∈ ROUTES, (MonitoringRead.ofRoute r.handler []).isSome = true →
    r.method = .GET ∧ (∀ pat ∈ r.pattern, isParam pat = false) ∧
      (r.pattern = sourcesPath ∨ r.pattern = ["api", "v1", "monitoring", "outbox", "messages"]) := by
  decide +kernel

theorem readOf_eq_some {request : ApiRequest} (h : readOf request = some read) :
    ∃ r ∈ ROUTES, ∃ params, r.method = request.method ∧ matchPath r.pattern request.path = some params ∧
      MonitoringRead.ofRoute r.handler params = some read := by
  obtain ⟨⟨r, params⟩, hd, hread⟩ := Option.bind_eq_some_iff.1 h
  obtain ⟨hr, hm, hp⟩ := dispatch_eq_some hd
  exact ⟨r, hr, params, hm, hp, hread⟩

/-- **Key result.** A read that names a source has it in its path where the gate finds it. -/
theorem source_match_of_read {request : ApiRequest} {source_id : String} (h : readOf request = some read)
    (hs : read.source? = some source_id) :
    source_match request.path = some source_id ∧ startswith ["api", "v1", "monitoring"] request.path = true := by
  obtain ⟨r, hr, params, -, hp, hread⟩ := readOf_eq_some h
  have hhead : params.head? = some source_id := (source_of_params hread).symm.trans hs
  have hroute := source_routes r hr (by
    have hsome : (MonitoringRead.ofRoute r.handler (params.map fun _ => "")).isSome = true := by
      rw [← ofRoute_isSome, hread, Option.isSome_some]
    match params, hhead, hsome with
    | [_], _, hsome => exact Or.inl hsome
    | [_, _], _, hsome => exact Or.inr hsome
    | _ :: _ :: _ :: _, _, hsome => simp [MonitoringRead.ofRoute] at hsome)
  obtain ⟨hstart, hpat⟩ := hroute
  obtain ⟨pat, pats, hdrop⟩ : ∃ pat pats, r.pattern.drop 4 = pat :: pats := by
    cases hd : r.pattern.drop 4 with
    | nil => simp [hd] at hpat
    | cons pat pats => exact ⟨pat, pats, rfl⟩
  obtain ⟨hparam, hrest⟩ : isParam pat = true ∧ isRest pat = false := by simpa [hdrop] using hpat
  have hpattern : r.pattern = "api" :: "v1" :: "monitoring" :: "sources" :: pat :: pats := by
    rw [← List.take_append_drop 4 r.pattern, hstart, hdrop]
    rfl
  rw [hpattern] at hp
  obtain ⟨segs₁, h₁, hp₁⟩ := matchPath_cons (by decide) hp
  obtain ⟨segs₂, rfl, hp₂⟩ := matchPath_cons (by decide) hp₁
  obtain ⟨segs₃, rfl, hp₃⟩ := matchPath_cons (by decide) hp₂
  obtain ⟨segs₄, rfl, hp₄⟩ := matchPath_cons (by decide) hp₃
  obtain ⟨seg, segs, rest, rfl, hne, rfl, -⟩ := matchPath_param hparam hrest hp₄
  obtain rfl : seg = source_id := by simpa using hhead
  rw [h₁]
  exact ⟨by simp [source_match, hne], by simp [startswith, List.isPrefixOf]⟩

/-- A read that names no source is one of the two listings. -/
theorem listing_path {request : ApiRequest} (h : readOf request = some read) (hs : read.source? = none) :
    request.method = .GET ∧
      (request.path = sourcesPath ∨ request.path = ["api", "v1", "monitoring", "outbox", "messages"]) := by
  obtain ⟨r, hr, params, hm, hp, hread⟩ := readOf_eq_some h
  have hnil : params = [] := by
    have hhead : params.head? = none := (source_of_params hread).symm.trans hs
    simpa using hhead
  subst hnil
  obtain ⟨hget, hliteral, hpattern⟩ := listing_routes r hr (by rw [hread]; rfl)
  rw [matchPath_literal hliteral hp, ← hm]
  exact ⟨hget, hpattern⟩

theorem required_of_monitoring {path : Path} (method : HttpMethod) (h : startswith ["api", "v1", "monitoring"] path = true) :
    ∃ required, required_permission path method = some required := by
  have hfind : DOMAIN_PREFIXES.find? (fun entry => startswith entry.1 path) = some (["api", "v1", "monitoring"], "monitoring") :=
    List.find?_cons_of_pos h
  rw [required_permission, hfind]
  exact ⟨_, rfl⟩

/-! ### Confinement -/

/-- All that the principal has in the tenant is by grants, each for some sources; these are all of them. -/
structure DelegatedOnly (now : ℕ) (principal_id tenant_id : String) (db : AccessDb) (sources : List String) : Prop where
  no_platform : principal_is_platform_admin principal_id db = false
  no_display : activeKind principal_id db ≠ some .display_principal
  no_member : ¬Member principal_id tenant_id db
  granted : Granted now principal_id tenant_id db
  each_scoped : ∀ g ∈ activeGrants now principal_id tenant_id db, g.resource_scope ≠ []
  mem_sources : ∀ s, s ∈ sources ↔ ∃ g ∈ activeGrants now principal_id tenant_id db, s ∈ g.resource_scope

/-- Such a principal reaches these sources. -/
theorem DelegatedOnly.allowed {now : ℕ} {principal_id tenant_id : String} {db : AccessDb} {sources : List String}
    (h : DelegatedOnly now principal_id tenant_id db sources) :
    ∃ ids, allowed_source_ids now principal_id tenant_id db = some ids ∧ ∀ s, s ∈ ids ↔ s ∈ sources := by
  cases hids : allowed_source_ids now principal_id tenant_id db with
  | some ids => exact ⟨ids, rfl, fun s => (mem_allowed hids).trans (h.mem_sources s).symm⟩
  | none =>
    obtain hp | hm | hg | ⟨g, hg, hnil⟩ := allowed_eq_none_iff.1 hids
    · simp [h.no_platform] at hp
    · exact absurd hm h.no_member
    · exact absurd h.granted hg
    · exact absurd hnil (h.each_scoped g hg)

section Confined

variable (settings : Settings) (rt : Runtime) (request : ApiRequest) (q : MonitoringQuery) (s : ApiState)

/-- The answer to a principal with grants for some sources comes from their rows: it is the same on two states of
the tables that have the same part of these sources. -/
def SourceConfined : Prop :=
  ∀ ctx tenant sources, presented settings request s = some (some ctx) → ctx.tenant = some tenant →
    DelegatedOnly s.now ctx.principal_id tenant s.db sources →
      ∀ db db' : MonitoringDb, db.Integral → db'.Integral → db.restrict tenant sources = db'.restrict tenant sources →
        monitoring_get settings rt request q s db = monitoring_get settings rt request q s db'

/-- The session is current, the credential covers the reading of the monitoring and the principal may do it. -/
def ReadsMonitoring (ctx : ApiContext) (tenant : String) : Prop :=
  (ctx.credential = .session → session_current s.now s.sessions s.db ctx.toContext = true) ∧
    ctx.credential.covers "monitoring:read" = true ∧
      permits (effective_permissions s.now ctx.principal_id tenant s.db) "monitoring:read" = true

/-- The messages are listed: the statement is taken, for at least one message, in any state or in one there is. -/
def ListsMessages : Prop :=
  rt.untyped_null = true ∧ 0 < q.limit.getD 100 ∧ ∀ state ∈ q.state, ∃ m : MessageState, m.text = state

/-- The request is for the list of the sources or for the messages. -/
def ListsEverySource : Prop :=
  readOf request = some .list_sources ∨ readOf request = some .outbox ∧ ListsMessages rt q

variable {settings} {rt} {request} {q} {s}

/-- The gate lets the listings through to whom the monitoring is open. -/
theorem listing_passes {ctx : ApiContext} {tenant : String} (hp : presented settings request s = some (some ctx))
    (ht : ctx.tenant = some tenant) (hread : readOf request = some read) (hs : read.source? = none) :
    verify_context settings request s = .next ctx ↔ ReadsMonitoring s ctx tenant := by
  obtain ⟨hget, hpath⟩ := listing_path hread hs
  have hgated : startswith ["api", "v1"] request.path = true ∧ exempt request.path = false ∧
      required_permission request.path request.method = some "monitoring:read" ∧ source_match request.path = none := by
    rw [hget]
    obtain hpath | hpath := hpath <;> rw [hpath] <;> exact ⟨by decide, by decide, by decide, by decide⟩
  obtain ⟨hv, he, hreq, hsource⟩ := hgated
  rw [verify_context_next, permission_gate_next, ReadsMonitoring]
  simp [hv, he, hp, hreq, ht, sourceReached, hsource]

theorem limited_nonpos {α : Type} {limit : ℤ} (h : ¬0 < limit) (rows : List α) :
    limited (min limit 1000) rows = if limit < 0 then none else some [] := by
  have hmin : min limit 1000 = limit := by omega
  have hzero : limit.toNat = 0 := by omega
  rw [limited, hmin, hzero, List.take_zero]

theorem limited_nil {α : Type} {limit : ℤ} (h : 0 < limit) : limited (min limit 1000) ([] : List α) = some [] := by
  have hmin : ¬min limit 1000 < 0 := by omega
  rw [limited, if_neg hmin, List.take_nil]

theorem limited_singleton {α : Type} {limit : ℤ} (h : 0 < limit) (row : α) :
    limited (min limit 1000) [row] = some [row] := by
  have hmin : ¬min limit 1000 < 0 := by omega
  have hlength : [row].length ≤ (min limit 1000).toNat := by
    rw [List.length_singleton]
    omega
  rw [limited, if_neg hmin, List.take_of_length_le hlength]

/-- Where no messages are listed, the answer is the same on all tables. -/
theorem outbox_silent {tenant : String} (h : ¬ListsMessages rt q) (db db' : MonitoringDb) :
    MonitoringRead.outbox.answer rt q tenant db = MonitoringRead.outbox.answer rt q tenant db' := by
  simp only [MonitoringRead.answer, listOutboxAnswer]
  cases hn : rt.untyped_null with
  | false => rfl
  | true =>
    by_cases hl : 0 < q.limit.getD 100
    · obtain ⟨state, hstate, hnone⟩ : ∃ state ∈ q.state, ∀ m : MessageState, m.text ≠ state := by
        simpa [ListsMessages, hn, hl] using h
      have hempty : ∀ db : MonitoringDb, db.list_outbox tenant q.state = [] := fun db => by
        have hfilter : db.monitoring_outbox.filter (fun m =>
            m.tenant_id = tenant ∧ q.state.all fun st => m.dispatch_state.text = st) = [] :=
          List.filter_eq_nil_iff.2 fun m _ => by
            rw [Option.mem_def] at hstate
            simp [hstate, hnone m.dispatch_state]
        rw [MonitoringDb.list_outbox, hfilter]
        rfl
      rw [hempty db, hempty db']
    · rw [limited_nonpos hl, limited_nonpos hl]

/-! ### A source outside of the grants -/

/-- No rows. -/
def noRows : MonitoringDb := ⟨[], [], [], [], [], [], [], [], [], [], [], [], [], [], [], []⟩

/-- What the rows of the source have in common. -/
def rowOf (tenant_id source_id : String) : OwnedRow := ⟨tenant_id, source_id, fun _ => .null⟩

/-- A source with a generation, a problem and a message about it. -/
def oneSource (tenant_id source_id : String) (dispatch_state : MessageState) : MonitoringDb :=
  { noRows with
    monitoring_source := [
      { rowOf tenant_id source_id with
        active_source_instance_generation := "generation", operational_evidence_state := "current", created_at := 0 }]
    monitoring_source_generation := [{ rowOf tenant_id source_id with source_instance_generation := "generation" }]
    monitoring_problem := [
      { rowOf tenant_id source_id with
        problem_id := "problem", monitoring_resource_id := "resource", source_instance_generation := "generation",
        problem_state := "active", severity_class := "critical", opened_at := 0 }]
    monitoring_outbox := [⟨tenant_id, 0, some "monitoring_problem", some "problem", dispatch_state, fun _ => .null⟩] }

theorem noRows_integral : noRows.Integral := by
  constructor <;> simp [noRows]

theorem oneSource_integral (tenant_id source_id : String) (dispatch_state : MessageState) :
    (oneSource tenant_id source_id dispatch_state).Integral := by
  constructor <;> simp [oneSource, noRows]

theorem oneSource_restrict {tenant_id source_id : String} {sources : List String} (hs : source_id ∉ sources)
    (dispatch_state : MessageState) :
    (oneSource tenant_id source_id dispatch_state).restrict tenant_id sources = noRows.restrict tenant_id sources := by
  simp [MonitoringDb.restrict, oneSource, noRows, OwnedRow.within, rowOf, MonitoringDb.subject, hs]

/-- The listings show it. -/
theorem oneSource_listed {tenant_id source_id : String} {dispatch_state : MessageState}
    (h : read = .list_sources ∨ read = .outbox ∧ ListsMessages rt q ∧ ∀ state ∈ q.state, dispatch_state.text = state) :
    read.answer rt q tenant_id (oneSource tenant_id source_id dispatch_state) ≠ read.answer rt q tenant_id noRows := by
  obtain rfl | ⟨rfl, ⟨hn, hl, -⟩, hstate⟩ := h
  · simp [MonitoringRead.answer, MonitoringDb.list_sources, MonitoringDb.activeGeneration, oneSource, noRows, rowOf,
      OwnedRow.of, listSourcesAnswer, ok]
  · have hshown : ∃ m, (oneSource tenant_id source_id dispatch_state).list_outbox tenant_id q.state = [m] := by
      have hall : q.state.all (fun st => dispatch_state.text = st) = true := by
        cases hq : q.state with
        | none => rfl
        | some state => simpa using hstate state hq
      simp [MonitoringDb.list_outbox, oneSource, noRows, hall]
    obtain ⟨m, hm⟩ := hshown
    have hnone : noRows.list_outbox tenant_id q.state = [] := by simp [MonitoringDb.list_outbox, noRows]
    simp [MonitoringRead.answer, hm, hnone, listOutboxAnswer, hn, limited_singleton hl, limited_nil hl, ok]

/-- **Key result.** The answer comes from the granted sources unless the request lists every source or the messages
of the outbox and is let through. -/
theorem source_confined_iff (settings : Settings) (rt : Runtime) (request : ApiRequest) (q : MonitoringQuery)
    (s : ApiState) : SourceConfined settings rt request q s ↔
      ∀ ctx tenant sources, presented settings request s = some (some ctx) → ctx.tenant = some tenant →
        DelegatedOnly s.now ctx.principal_id tenant s.db sources → ReadsMonitoring s ctx tenant →
          ¬ListsEverySource rt request q := by
  constructor
  · rintro h ctx tenant sources hp ht hd hreads hlists
    -- A source that no grant names, and a state of a message that the request asks for.
    obtain ⟨source_id, hs⟩ := Infinite.exists_notMem_finset sources.toFinset
    rw [List.mem_toFinset] at hs
    obtain ⟨read, dispatch_state, hread, hlisted⟩ : ∃ read dispatch_state, readOf request = some read ∧
        (read = .list_sources ∨
          read = .outbox ∧ ListsMessages rt q ∧ ∀ state ∈ q.state, MessageState.text dispatch_state = state) := by
      obtain hread | ⟨hread, hmessages⟩ := hlists
      · exact ⟨_, .pending, hread, Or.inl rfl⟩
      · obtain ⟨m, hm⟩ : ∃ m : MessageState, ∀ state ∈ q.state, m.text = state := by
          cases hstate : q.state with
          | none => exact ⟨.pending, by simp⟩
          | some state =>
            obtain ⟨m, hm⟩ := hmessages.2.2 state hstate
            exact ⟨m, by simp [hm]⟩
        exact ⟨_, m, hread, Or.inr ⟨rfl, hmessages, hm⟩⟩
    have hnone : read.source? = none := by obtain rfl | ⟨rfl, -⟩ := hlisted <;> rfl
    have hnext := (listing_passes hp ht hread hnone).2 hreads
    have hsame := h ctx tenant sources hp ht hd _ _ (oneSource_integral tenant source_id dispatch_state) noRows_integral
      (oneSource_restrict hs dispatch_state)
    have htenant : authoritative_tenant settings ctx request.tenant_id = some tenant := by
      simp [authoritative_tenant, ht]
    simp only [monitoring_get, hnext, hread, htenant, Option.map_some, Option.some.injEq] at hsame
    exact oneSource_listed hlisted hsame
  · intro h ctx tenant sources hp ht hd db db' hi hi' hsame
    unfold monitoring_get
    cases hv : verify_context settings request s with
    | unprotected => rfl
    | refused status state reason => rfl
    | next ctx' =>
      obtain ⟨-, -, hp', -, hgate⟩ := verify_context_next.1 hv
      obtain rfl : ctx = ctx' := Option.some.inj (Option.some.inj (hp.symm.trans hp'))
      dsimp only
      cases hread : readOf request with
      | none => rfl
      | some read =>
        have htenant : authoritative_tenant settings ctx request.tenant_id = some tenant := by
          simp [authoritative_tenant, ht]
        simp only [Option.map_some, htenant, Option.some.injEq]
        cases hsource : read.source? with
        | some source_id =>
          -- The gate has found the source in the path and among the granted ones.
          obtain ⟨hmatch, hgated⟩ := source_match_of_read hread hsource
          obtain ⟨ids, hids, hmem⟩ := hd.allowed
          obtain ⟨required, hreq⟩ := required_of_monitoring request.method hgated
          have hpassed := ((permission_gate_next.1 hgate).2 required hreq tenant ht).2.1
          have hallowed : source_id ∈ sources := (hmem source_id).1 (by simpa [sourceReached, hmatch, hids] using hpassed)
          rw [← answer_restrict hsource hallowed hi, hsame, answer_restrict hsource hallowed hi']
        | none =>
          have hquiet := h ctx tenant sources hp ht hd ((listing_passes hp ht hread hsource).1 hv)
          cases read with
          | list_sources => exact absurd (Or.inl hread) hquiet
          | outbox => exact outbox_silent (fun hm => hquiet (Or.inr ⟨hread, hm⟩)) db db'
          | _ => simp [MonitoringRead.source?] at hsource

end Confined

/-! ### The list of the sources -/

/-- A provider has a grant for one source of the tenant, and has made the key with it. -/
def scopedState : ApiState :=
  { keyedState with
    db := {
      principals := [⟨"v", .human_browser_session, true⟩]
      tenants := [⟨"t", "T", true⟩]
      memberships := []
      roles := []
      grants := [⟨"t", "v", ["tenant:admin", "monitoring:read"], ["s1"], true, 0, none⟩] } }

/-- No text is asked of the libraries by the list of the sources. -/
def bareRuntime : Runtime where
  isoformat := fun _ => ""
  fromtimestamp := fun _ => ""
  timestamp := .num
  to_timestamp := intOf
  timestamptz := intOf
  float := some
  str := fun _ => ""
  text_le := fun a b => a ≤ b
  encode_cursor := fun _ => ""
  decode_cursor := fun _ => none
  time := 0
  untyped_null := true

theorem scoped_delegated : DelegatedOnly 0 "v" "t" scopedState.db ["s1"] where
  no_platform := by decide
  no_display := by decide
  no_member := by decide
  granted := by decide
  each_scoped := by decide
  mem_sources := fun s => by
    have hgrants : activeGrants 0 "v" "t" scopedState.db =
        [⟨"t", "v", ["tenant:admin", "monitoring:read"], ["s1"], true, 0, none⟩] := by decide
    simp [hgrants]

/-- **Key result.** With a grant for one source, the list shows another one. -/
theorem foreign_source_listed : ¬SourceConfined deployed bareRuntime (withKey .GET sourcesPath)
    ⟨none, none, none, none, none, none, none⟩ scopedState := by
  intro h
  have hsame := h keyContext "t" ["s1"] (by rfl) (by rfl) scoped_delegated _ _ (oneSource_integral "t" "s2" .pending)
    noRows_integral (oneSource_restrict (by decide) .pending)
  have hnext : verify_context deployed (withKey .GET sourcesPath) scopedState = .next keyContext := by rfl
  have hread : readOf (withKey .GET sourcesPath) = some .list_sources := by rfl
  simp only [monitoring_get, hnext, hread, Option.map_some] at hsame
  exact oneSource_listed (Or.inl rfl) (Option.some.inj hsame)

end JLMirror.Access
