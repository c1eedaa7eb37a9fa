import JLMirror.IncidentResponse.Turn
import Mathlib.Data.List.TakeWhile

/-!
# Whose results a pass keeps

The blocks of a pass are savepoints of the transaction that the query for the tenants opened, until a
turn raises: the rollback for it ends that transaction, and with it goes all that the tenants before
recorded. After it the connection is idle, every block commits, and no failure undoes anything.

## What is proved

* `idle_tenants` — on an idle connection what is recorded stands, whatever fails later.
* `open_kept` — in the open transaction it stands if no turn raises.
* `open_undone` — the first turn that raises undoes what the tenants before it recorded.

**Key result** (`isolates_iff`): what the tenants recorded stands at the end of the pass if and only if
no tenant before the first one that fails had a pending action.
-/

namespace JLMirror.IncidentResponse

open JLMirror.Foundations

/-- The keys of the tables. -/
structure Keyed (db : IrDb) : Prop where
  tenants : (db.tenants.map Prod.fst).Nodup
  actions : (db.actions.map ActionRequest.request_id).Nodup

/-- What the turns of the pass recorded stands once the pass is over. -/
def Isolates (p : IrPass) (db : IrDb) : Prop :=
  ∀ turn ∈ (_process_pending p (Session.idle db)).2, ∀ r ∈ turn.records,
    r.stands (_process_pending p (Session.idle db)).1.committed

instance (p : IrPass) (db : IrDb) : Decidable (Isolates p db) := by
  unfold Isolates
  infer_instance

/-- The tenants before the first one whose turn raises. -/
def beforeFailure (p : IrPass) (db : IrDb) : List String := (activeTenants db).takeWhile fun t => ¬fails p db t

/-- If a turn raises, no tenant before the first such turn has a pending action. -/
def NoWorkBeforeFailure (p : IrPass) (db : IrDb) : Prop :=
  (∃ t ∈ activeTenants db, fails p db t) → ∀ u ∈ beforeFailure p db, ¬hasPending u db

instance (p : IrPass) (db : IrDb) : Decidable (NoWorkBeforeFailure p db) := by
  unfold NoWorkBeforeFailure
  infer_instance

/-! ### The failure of a tenant -/

variable {p : IrPass} {db : IrDb} {t : String}

theorem fails_congr {db' : IrDb} (h : db'.rowsOf t = db.rowsOf t) : fails p db' t ↔ fails p db t := by
  rw [fails, fails, hasPending, hasPending, next_congr h]

theorem hasPending_congr {db' : IrDb} (h : db'.rowsOf t = db.rowsOf t) : hasPending t db' ↔ hasPending t db := by
  rw [hasPending, hasPending, next_congr h]

/-! ### A turn and the turns after it -/

variable {ts : List String} {s : Session IrDb}

theorem processTenants_returned {s₁ : Session IrDb} {records : List Record}
    (h : _process_tenant p t s = (s₁, records, false)) :
    processTenants p (t :: ts) s =
      ((processTenants p ts s₁).1, ⟨t, records, false⟩ :: (processTenants p ts s₁).2) := by
  simp only [processTenants, h, Bool.false_eq_true, if_false]

/-- After a turn that raised the connection is idle, and the pass goes on or, if the connection is gone, ends. -/
theorem processTenants_raised {s₁ : Session IrDb} {records : List Record}
    (h : _process_tenant p t s = (s₁, records, true)) (ts : List String) :
    ∃ rest, (rest = ts ∨ rest = []) ∧ processTenants p (t :: ts) s =
      ((processTenants p rest s₁.rollback).1,
        ⟨t, records.filter (·.stands s₁.committed), true⟩ :: (processTenants p rest s₁.rollback).2) := by
  by_cases hlost : (p.faults t).lost = true
  · refine ⟨[], Or.inr rfl, ?_⟩
    simp only [processTenants, h, if_true, hlost, Session.rollback_view]
    rfl
  · refine ⟨ts, Or.inl rfl, ?_⟩
    simp only [processTenants, h, if_true, hlost, Bool.false_eq_true, if_false, Session.rollback_view]

/-! ### On an idle connection -/

theorem idle_view (h : s.tx = none) : s.view = s.committed := by
  rw [Session.view, h]

theorem idle_commit (h : s.tx = none) : s.commit = s := by
  rw [Session.commit, h]

/-- What was recorded stands, and the rows of other tenants are as they were. -/
structure AllStand (ts : List String) (db db' : IrDb) (turns : List Turn) : Prop where
  others : ∀ u, u ∉ ts → db'.rowsOf u = db.rowsOf u
  own : ∀ turn ∈ turns, ∀ r ∈ turn.records, r.tenant_id ∈ ts
  stand : ∀ turn ∈ turns, ∀ r ∈ turn.records, r.stands db'

theorem AllStand.nil (ts : List String) (db : IrDb) : AllStand ts db db [] :=
  ⟨fun _ _ => rfl, fun _ h => absurd h List.not_mem_nil, fun _ h => absurd h List.not_mem_nil⟩

/-- A turn, and then turns of other tenants. -/
theorem AllStand.cons {db₁ db' : IrDb} {turn : Turn} {turns : List Turn} (hnew : t ∉ ts)
    (hothers : ∀ u, u ≠ t → db₁.rowsOf u = db.rowsOf u) (hown : ∀ r ∈ turn.records, r.tenant_id = t)
    (hstand : ∀ r ∈ turn.records, r.stands db₁) (h : AllStand ts db₁ db' turns) :
    AllStand (t :: ts) db db' (turn :: turns) where
  others u hu := by
    obtain ⟨hut, hu⟩ := not_or.1 fun h => hu (List.mem_cons.2 h)
    exact (h.others u hu).trans (hothers u hut)
  own x hx r hr := by
    rcases List.mem_cons.1 hx with rfl | hx
    · exact List.mem_cons.2 (Or.inl (hown r hr))
    · exact List.mem_cons_of_mem _ (h.own x hx r hr)
  stand x hx r hr := by
    rcases List.mem_cons.1 hx with rfl | hx
    · exact (Record.stands_congr (h.others _ (hown r hr ▸ hnew))).2 (hstand r hr)
    · exact h.stand x hx r hr

/-- On an idle connection everything stands, whatever fails. -/
theorem idle_tenants (hs : s.tx = none) (hts : ts.Nodup) :
    AllStand ts s.committed (processTenants p ts s).1.committed (processTenants p ts s).2 := by
  induction ts generalizing s with
  | nil =>
    rw [processTenants, idle_commit hs]
    exact .nil ..
  | cons t ts ih =>
    obtain ⟨hnew, hts⟩ := List.nodup_cons.1 hts
    rcases hturn : _process_tenant p t s with ⟨s₁, records, raised⟩
    have hspec := turn_spec (by rw [Session.failed, hs]) hturn
    have hs₁ : s₁.tx = none := by simpa [hs] using hspec.kept.isOpen
    have hothers : ∀ u, u ≠ t → s₁.committed.rowsOf u = s.committed.rowsOf u := by
      simpa only [idle_view hs, idle_view hs₁] using hspec.others
    cases raised with
    | false =>
      rw [processTenants_returned hturn]
      exact .cons hnew hothers hspec.own (idle_view hs₁ ▸ hspec.stand) (ih hs₁ hts)
    | true =>
      obtain ⟨rest, hrest, hpass⟩ := processTenants_raised hturn ts
      rw [hpass]
      have hown : ∀ r ∈ records.filter (·.stands s₁.committed), r.tenant_id = t :=
        fun r hr => hspec.own r (List.mem_filter.1 hr).1
      have hstand : ∀ r ∈ records.filter (·.stands s₁.committed), r.stands s₁.committed :=
        fun r hr => of_decide_eq_true (List.mem_filter.1 hr).2
      refine .cons hnew hothers hown hstand ?_
      rcases hrest with rfl | rfl
      · exact ih (s := s₁.rollback) rfl hts
      · exact .nil ..

/-! ### In the open transaction -/

/-- If no turn raises, everything stands once the transaction is committed. -/
theorem open_kept (hs : s.failed = false) (hts : ts.Nodup) (hno : ∀ t ∈ ts, ¬fails p s.view t) :
    AllStand ts s.view (processTenants p ts s).1.committed (processTenants p ts s).2 := by
  induction ts generalizing s with
  | nil =>
    rw [processTenants, Session.commit_committed hs]
    exact .nil ..
  | cons t ts ih =>
    obtain ⟨hnew, hts⟩ := List.nodup_cons.1 hts
    rcases hturn : _process_tenant p t s with ⟨s₁, records, raised⟩
    have hspec := turn_spec hs hturn
    have hreturned : raised = false := Bool.eq_false_iff.2 (mt hspec.raises.1 (hno t List.mem_cons_self))
    subst hreturned
    rw [processTenants_returned hturn]
    refine .cons hnew hspec.others hspec.own hspec.stand (ih hspec.kept.failed hts fun u hu => ?_)
    rw [fails_congr (hspec.others u (ne_of_mem_of_not_mem hu hnew))]
    exact hno u (List.mem_cons_of_mem t hu)

/-- The first turn that raises undoes what the tenants before it recorded: at the end their rows are as they
were, those of them that had a pending action have recorded that it is over, and nothing else is lost. -/
theorem open_undone {pre post : List String} (hs : s.failed = false) (hopen : s.tx.isSome = true)
    (hts : (pre ++ t :: post).Nodup) (hpre : ∀ u ∈ pre, ¬fails p s.view u) (ht : fails p s.view t) :
    (∀ u, u ∉ post → (processTenants p (pre ++ t :: post) s).1.committed.rowsOf u = s.committed.rowsOf u) ∧
    (∀ u ∈ pre, hasPending u s.view → ∃ turn ∈ (processTenants p (pre ++ t :: post) s).2, ∃ r ∈ turn.records,
      Completes s.view u r) ∧
    ∀ turn ∈ (processTenants p (pre ++ t :: post) s).2, ∀ r ∈ turn.records,
      (r.tenant_id ∈ pre ∧ hasPending r.tenant_id s.view) ∨
        r.stands (processTenants p (pre ++ t :: post) s).1.committed := by
  induction pre generalizing s with
  | nil =>
    obtain ⟨hnew, hts⟩ := List.nodup_cons.1 hts
    rcases hturn : _process_tenant p t s with ⟨s₁, records, raised⟩
    have hspec := turn_spec hs hturn
    obtain rfl : raised = true := hspec.raises.2 ht
    have hcommitted : s₁.committed = s.committed := hspec.kept.committed hopen
    obtain ⟨rest, hrest, hpass⟩ := processTenants_raised hturn post
    have hall : AllStand post s₁.committed (processTenants p rest s₁.rollback).1.committed
        (processTenants p rest s₁.rollback).2 := by
      rcases hrest with rfl | rfl
      · exact idle_tenants (s := s₁.rollback) rfl hts
      · exact .nil ..
    rw [List.nil_append, hpass]
    refine ⟨fun u hu => hcommitted ▸ hall.others u hu, fun u hu => absurd hu List.not_mem_nil, fun x hx r hr => Or.inr ?_⟩
    rcases List.mem_cons.1 hx with rfl | hx
    · obtain ⟨hr, hstands⟩ := List.mem_filter.1 hr
      exact (Record.stands_congr (hall.others _ (hspec.own r hr ▸ hnew))).2 (of_decide_eq_true hstands)
    · exact hall.stand x hx r hr
  | cons v pre ih =>
    obtain ⟨hnew, hts⟩ := List.nodup_cons.1 hts
    rcases hturn : _process_tenant p v s with ⟨s₁, records, raised⟩
    have hspec := turn_spec hs hturn
    have hreturned : raised = false := Bool.eq_false_iff.2 (mt hspec.raises.1 (hpre v List.mem_cons_self))
    subst hreturned
    have hothers : ∀ u ∈ pre ++ t :: post, s₁.view.rowsOf u = s.view.rowsOf u :=
      fun u hu => hspec.others u (ne_of_mem_of_not_mem hu hnew)
    have hmem : ∀ u ∈ pre, u ∈ pre ++ t :: post := fun u hu => List.mem_append_left _ hu
    obtain ⟨hrows, hcompletes, hlost⟩ := ih hspec.kept.failed (hspec.kept.isOpen.trans hopen) hts
      (fun u hu => by rw [fails_congr (hothers u (hmem u hu))]; exact hpre u (List.mem_cons_of_mem v hu))
      (by rw [fails_congr (hothers t (List.mem_append_right _ List.mem_cons_self))]; exact ht)
    rw [List.cons_append, processTenants_returned hturn]
    refine ⟨fun u hu => (hrows u hu).trans (by rw [hspec.kept.committed hopen]), fun u hu hpending => ?_, fun x hx r hr => ?_⟩
    · rcases List.mem_cons.1 hu with rfl | hu
      · obtain ⟨r, hr, hcomplete⟩ := hspec.completes rfl hpending
        exact ⟨_, List.mem_cons_self, r, hr, hcomplete⟩
      · obtain ⟨x, hx, r, hr, hcomplete⟩ := hcompletes u hu ((hasPending_congr (hothers u (hmem u hu))).2 hpending)
        exact ⟨x, List.mem_cons_of_mem _ hx, r, hr, hcomplete.congr (hothers u (hmem u hu))⟩
    · rcases List.mem_cons.1 hx with rfl | hx
      · have hown := hspec.own r hr
        refine Or.inl ⟨hown ▸ List.mem_cons_self, hown ▸ not_not.1 fun hquiet => ?_⟩
        rw [hspec.quiet hquiet] at hr
        cases hr
      · refine (hlost x hx r hr).imp_left fun ⟨hr, hpending⟩ => ⟨List.mem_cons_of_mem v hr, ?_⟩
        exact (hasPending_congr (hothers _ (hmem _ hr))).1 hpending

/-! ### The pass -/

/-- The turns of a pass start in the transaction of the query for the tenants. -/
theorem pass_eq (hp : p.tenantsRefused = false) (db : IrDb) :
    _process_pending p (Session.idle db) = processTenants p (activeTenants db) ((Session.idle db).start p.clock) := by
  rw [_process_pending, hp]
  rfl

theorem activeTenants_nodup (h : Keyed db) : (activeTenants db).Nodup :=
  h.tenants.sublist (List.filter_sublist.map _)

/-- Where a turn raises, the tenants are those before the first such turn, its own and the others. -/
theorem split_at_failure (h : ∃ t ∈ activeTenants db, fails p db t) :
    ∃ t post, activeTenants db = beforeFailure p db ++ t :: post ∧ fails p db t ∧
      ∀ u ∈ beforeFailure p db, ¬fails p db u := by
  have hpre : ∀ u ∈ beforeFailure p db, ¬fails p db u := fun u hu => by simpa using List.mem_takeWhile_imp hu
  have hsplit := List.takeWhile_append_dropWhile (p := fun t => decide ¬fails p db t) (l := activeTenants db)
  cases hrest : (activeTenants db).dropWhile fun t => ¬fails p db t with
  | nil =>
    obtain ⟨t, ht, hfails⟩ := h
    rw [hrest, List.append_nil] at hsplit
    exact absurd hfails (hpre t (by rw [beforeFailure, hsplit]; exact ht))
  | cons t post =>
    have ht := List.head_dropWhile_not (fun t => decide ¬fails p db t) (l := activeTenants db)
      (by rw [hrest]; exact List.cons_ne_nil t post)
    simp only [hrest, List.head_cons] at ht hsplit
    exact ⟨t, post, hsplit.symm, by simpa using ht, hpre⟩

/-- A pass keeps what its turns recorded, if and only if no tenant before the first one that fails had a pending
action. -/
theorem isolates_iff {p : IrPass} {db : IrDb} (hdb : Keyed db) :
    Isolates p db ↔ p.tenantsRefused = true ∨ NoWorkBeforeFailure p db := by
  cases hp : p.tenantsRefused with
  | true =>
    refine iff_of_true ?_ (Or.inl rfl)
    intro turn hturn
    rw [_process_pending, hp] at hturn
    cases hturn
  | false =>
    have hnd := activeTenants_nodup hdb
    have hview : ((Session.idle db).start p.clock).view = db := Session.start_view ..
    simp only [Isolates, pass_eq hp, Bool.false_eq_true, false_or]
    by_cases h : ∃ t ∈ activeTenants db, fails p db t
    · obtain ⟨t, post, hts, ht, hpre⟩ := split_at_failure h
      rw [hts] at hnd
      obtain ⟨hrows, hcompletes, hlost⟩ := open_undone (p := p) (s := (Session.idle db).start p.clock) rfl rfl hnd
        (by rwa [hview]) (by rwa [hview])
      rw [← hts, hview] at hcompletes hlost
      rw [← hts] at hrows
      constructor
      · -- what the tenants before the failure completed is pending again
        intro hisolates _ u hu hpending
        obtain ⟨x, hx, r, hr, hcomplete⟩ := hcompletes u hu hpending
        have hpost : r.tenant_id ∉ post := by
          rw [hcomplete.tenant]
          exact fun hpost => (List.nodup_append.1 hnd).2.2 u hu u (List.mem_cons_of_mem t hpost) rfl
        exact hcomplete.not_stands hdb.actions ((Record.stands_congr (hrows _ hpost)).1 (hisolates x hx r hr))
      · intro hcond x hx r hr
        refine (hlost x hx r hr).resolve_left ?_
        rintro ⟨hmem, hpending⟩
        exact hcond h _ hmem hpending
    · have hno : ∀ t ∈ activeTenants db, ¬fails p db t := fun t ht hfails => h ⟨t, ht, hfails⟩
      have hall := open_kept (p := p) (s := (Session.idle db).start p.clock) rfl hnd (by rwa [hview])
      exact iff_of_true hall.stand fun h' => absurd h' h

/-! ### Two tenants -/

/-- Nothing fails, and a ticket is opened. -/
def noFaults : TenantFaults where
  nextRefused := false
  candidateRaises := false
  claimRefused := false
  ticket := .opened "T-1"
  destinationsRefused := false
  sent _ := true
  policyRefused := false
  enqueueRefused _ := false
  completeRefused := false
  lost := false
  errorName := ""
  lastError := ""

/-- The claim of one tenant is refused. -/
def claimRefusedFor (t : String) : IrPass where
  clock := 0
  executor := "g11-worker-1"
  tenantsRefused := false
  faults u := { noFaults with claimRefused := u = t }
  runId _ _ := "arun:1"

/-- The ticket of an event is to be opened. -/
def openTicket (t : String) : ActionRequest :=
  ⟨"act:" ++ t, t, "evt:" ++ t, .open_ticket, .pending, 0, none, none, none, none, none, 0⟩

/-- Each tenant has a ticket to open. -/
def ticketsOf (ts : List String) : IrDb where
  tenants := ts.map (·, true)
  policies := []
  destinations := []
  scripts := []
  runs := []
  events := ts.map fun t => ⟨t, "evt:" ++ t, .received⟩
  actions := ts.map openTicket

/-- The first tenant's ticket is open, and the rollback for the second forgets it. -/
theorem ticket_forgotten : ¬Isolates (claimRefusedFor "t2") (ticketsOf ["t1", "t2"]) := by decide

/-- If the first tenant fails, the ticket of the second is kept. -/
theorem ticket_kept : Isolates (claimRefusedFor "t1") (ticketsOf ["t1", "t2"]) :=
  (isolates_iff ⟨by decide, by decide⟩).2 (Or.inr (by decide))

end JLMirror.IncidentResponse
