import JLMirror.Credentials.BaoStore
import JLMirror.Foundations.Overwrites
import JLMirror.Foundations.Table

/-!
# The credential store loses no update

"Read-modify-write with CAS so concurrent rotations don't clobber each other." The document that a call writes back is the one
it read, changed at one reference, and it is written only at the version that was read.

## The model

* A call takes effect when the server writes its document, or when it finds that there is nothing to delete.
* A request may be written although its writer has seen an error; if the writer then tries again, the call writes twice. Its
  last write is where it takes effect: the earlier one is overwritten (`overwrite_lastOf`).

## What is proved

* `Fits`: at the version that a request names, its document is the current one with its call's change made.
* `Spent`: no request of a call that is over can be written any more.
* **Key result** (`credentials_linearized`): over any run of any number of writers, with requests that are lost, late or
  written without an answer, there is one moment for each call that has reported success, between its start and its end, and
  the document is what the calls make of it one after another, in the order of these moments.
* A step changes no other reference than that of the call whose request the server writes (`only_its_reference`).
-/

namespace JLMirror.Credentials

open JLMirror.Foundations

/-! ### The claim -/

/-- The changes of some effects, one after another. -/
def perform (document : Document) (points : List Effect) : Document :=
  points.foldl (fun d e => e.call.change.apply d) document

/-- Each call takes effect at one moment at most, in its own time, and each that has reported success has. -/
structure Points (s : BaoSystem) (points : List Effect) : Prop where
  ordered : points.Pairwise fun e e' => e.time < e'.time
  once : (points.map (·.call)).Nodup
  made : ∀ e ∈ points, e.call ∈ s.calls ∧ e.call.started < e.time
  reported : ∀ r ∈ s.reported, ∃ e ∈ points, e.call = r.call ∧ e.time < r.ended

/-- The document is what the calls make of it one after another. -/
structure Linearized (kv : KvSecret) (s : BaoSystem) : Prop where
  calls : (s.calls.map (·.started)).Nodup
  points : ∃ points, Points s points ∧ s.kv.document = perform kv.document points

/-- The reference that a step may change. -/
def MayChange (s : BaoSystem) (a : BaoAct) (ref : String) : Prop :=
  ∃ r ∈ s.requests, a = .serve r.id ∧ r.call.change.ref = ref

/-! ### The invariant -/

/-- At the version that a request names, its document is the current one with the change made, and there is something to
delete. -/
structure Fits (kv : KvSecret) (change : Change) (document : Document) (cas : ℕ) : Prop where
  le : cas ≤ kv.version
  current : cas = kv.version → document = change.apply kv.document
  present : cas = kv.version → change.value = none → kv.document change.ref ≠ none

/-- No request of the call can be written any more. -/
def Spent (s : BaoSystem) (call : Call) : Prop :=
  ∀ r ∈ s.requests, r.call = call → r.status = .inflight → r.cas < s.kv.version

/-- The call has taken effect. -/
structure Done (s : BaoSystem) (call : Call) : Prop where
  effect : ∃ e ∈ s.effects, e.call = call
  spent : Spent s call

def CallPoint.call : CallPoint → Option Call
  | .idle => none
  | .fetch call _ | .put call _ _ _ | .waiting call _ _ | .returning call => some call

/-- What holds of a writer. -/
def PointInv (s : BaoSystem) : CallPoint → Prop
  | .idle | .fetch _ _ => True
  | .put call _ document cas => Fits s.kv call.change document cas
  | .waiting call _ id => ∃ r ∈ s.requests, r.id = id ∧ r.call = call ∧ (r.status = .written → Done s call)
  | .returning call => Done s call

structure BaoInv (kv : KvSecret) (s : BaoSystem) : Prop where
  calls : (s.calls.map (·.started)).Nodup
  past : ∀ c ∈ s.calls, c.started < s.clock
  active : ∀ w c, (s.pc w).call = some c → c ∈ s.calls ∧ ∀ r ∈ s.reported, r.call ≠ c
  single : ∀ v w c, (s.pc v).call = some c → (s.pc w).call = some c → v = w
  points : ∀ w, PointInv s (s.pc w)
  ids : (s.requests.map (·.id)).Nodup
  sent : ∀ r ∈ s.requests, r.id < s.clock ∧ r.call ∈ s.calls
  fits : ∀ r ∈ s.requests, r.status = .inflight → Fits s.kv r.call.change r.document r.cas
  reported : ∀ r ∈ s.reported, r.call ∈ s.calls ∧ r.ended < s.clock ∧ Done s r.call ∧
    ∀ e ∈ s.effects, e.call = r.call → e.time < r.ended
  document : s.kv.document = perform kv.document s.effects
  ordered : s.effects.Pairwise fun e e' => e.time < e'.time
  effects : ∀ e ∈ s.effects, e.call ∈ s.calls ∧ e.call.started < e.time ∧ e.time < s.clock

section Steps

variable {kv : KvSecret} {s s' : BaoSystem} {w : ℕ} {call : Call}

/-- The next state, with the clock. -/
abbrev tick (s : BaoSystem) : BaoSystem := { s with clock := s.clock + 1 }

theorem Done.mono (h : Done s call) (heffects : s.effects ⊆ s'.effects) (hversion : s.kv.version ≤ s'.kv.version)
    (hrequests : ∀ r' ∈ s'.requests, r'.call = call → r'.status = .inflight →
      ∃ r ∈ s.requests, r.call = call ∧ r.status = .inflight ∧ r.cas = r'.cas) : Done s' call := by
  obtain ⟨e, he, hcall⟩ := h.effect
  refine ⟨⟨e, heffects he, hcall⟩, fun r' hr' hcall' hstatus => ?_⟩
  obtain ⟨r, hr, hrcall, hrstatus, hcas⟩ := hrequests r' hr' hcall' hstatus
  exact hcas ▸ Nat.lt_of_lt_of_le (h.spent r hr hrcall hrstatus) hversion

/-- A writer's point, in a later state. -/
theorem PointInv.mono {p : CallPoint} (h : PointInv s p)
    (hfits : ∀ {change document cas}, Fits s.kv change document cas → Fits s'.kv change document cas)
    (hdone : ∀ c, p.call = some c → Done s c → Done s' c)
    (hrequests : ∀ r ∈ s.requests, p.call = some r.call → ∃ r' ∈ s'.requests, r'.id = r.id ∧ r'.call = r.call ∧
      (r'.status = .written → r.status = .written ∨ Done s' r.call)) : PointInv s' p := by
  cases p with
  | idle => trivial
  | fetch c attempt => trivial
  | put c attempt document cas => exact hfits h
  | waiting c attempt id =>
    obtain ⟨r, hr, hid, rfl, hwritten⟩ := h
    obtain ⟨r', hr', hid', hcall', hstatus⟩ := hrequests r hr rfl
    refine ⟨r', hr', hid'.trans hid, hcall', fun hw => ?_⟩
    rcases hstatus hw with hold | hdone'
    · exact hdone r.call rfl (hwritten hold)
    · exact hdone'
  | returning c => exact hdone c rfl h

theorem PointInv.congr {p : CallPoint} (h : PointInv s p) (hkv : s'.kv = s.kv) (hrequests : s'.requests = s.requests)
    (heffects : s'.effects = s.effects) : PointInv s' p := by
  refine h.mono (fun hf => hkv ▸ hf) (fun c _ hc => ?_) fun r hr _ => ⟨r, hrequests ▸ hr, rfl, rfl, Or.inl⟩
  exact hc.mono (heffects ▸ List.Subset.refl _) (hkv ▸ le_rfl) fun r hr hcall hstatus => ⟨r, hrequests ▸ hr, hcall, hstatus, rfl⟩

theorem goto_pc (s : BaoSystem) (w : ℕ) (p : CallPoint) (v : ℕ) : (s.goto w p).pc v = if v = w then p else s.pc v := by
  unfold BaoSystem.goto
  exact Function.update_apply ..

/-- A writer that goes on with its call, or without one. -/
theorem BaoInv.goto {p : CallPoint} (h : BaoInv kv s) (hcall : p.call = (s.pc w).call ∨ p.call = none)
    (hp : PointInv s p) : BaoInv kv (tick (s.goto w p)) := by
  have hpc := goto_pc s w p
  have hsame : ∀ v c, ((s.goto w p).pc v).call = some c → (s.pc v).call = some c := by
    intro v c hv
    rw [hpc] at hv
    split_ifs at hv with hvw
    · rcases hcall with heq | hnone
      · rw [hvw, ← heq]
        exact hv
      · rw [hnone] at hv
        cases hv
    · exact hv
  refine ⟨h.calls, fun c hc => Nat.lt_succ_of_lt (h.past c hc), fun v c hv => h.active v c (hsame v c hv),
    fun v u c hv hu => h.single v u c (hsame v c hv) (hsame u c hu), fun v => ?_, h.ids,
    fun r hr => ⟨Nat.lt_succ_of_lt (h.sent r hr).1, (h.sent r hr).2⟩, h.fits, fun r hr => ?_, h.document, h.ordered,
    fun e he => ?_⟩
  · have hv : PointInv s ((s.goto w p).pc v) := by
      rw [hpc]
      split_ifs
      · exact hp
      · exact h.points v
    exact hv.congr rfl rfl rfl
  · obtain ⟨hmem, hended, hdone, hbefore⟩ := h.reported r hr
    exact ⟨hmem, Nat.lt_succ_of_lt hended, ⟨hdone.effect, hdone.spent⟩, hbefore⟩
  · obtain ⟨hmem, hstarted, htime⟩ := h.effects e he
    exact ⟨hmem, hstarted, Nat.lt_succ_of_lt htime⟩

theorem BaoInv.stay (h : BaoInv kv s) : BaoInv kv (tick s) := by
  have hself : s.goto 0 (s.pc 0) = s := by
    unfold BaoSystem.goto
    rw [Function.update_eq_self]
  rw [← hself]
  exact h.goto (Or.inl rfl) (h.points 0)

/-- A call is made. -/
theorem BaoInv.start {change : Change} (h : BaoInv kv s) :
    BaoInv kv (tick { s.goto w (.fetch ⟨change, s.clock⟩ 0) with calls := s.calls ++ [⟨change, s.clock⟩] }) := by
  have hpc := goto_pc s w (.fetch ⟨change, s.clock⟩ 0)
  have hnew : ∀ c ∈ s.calls, c ≠ ⟨change, s.clock⟩ := by
    rintro c hc rfl
    exact Nat.lt_irrefl _ (h.past _ hc)
  refine ⟨?_, fun c hc => ?_, fun v c hv => ?_, fun v u c hv hu => ?_, fun v => ?_, h.ids,
    fun r hr => ⟨Nat.lt_succ_of_lt (h.sent r hr).1, List.mem_append_left _ (h.sent r hr).2⟩, h.fits, fun r hr => ?_, h.document,
    h.ordered, fun e he => ?_⟩
  · refine nodup_map_append_new h.calls fun c hc heq => ?_
    exact Nat.ne_of_lt (h.past c hc) heq
  · rcases List.mem_append.1 hc with hc | hc
    · exact Nat.lt_succ_of_lt (h.past c hc)
    · obtain rfl := List.mem_singleton.1 hc
      exact Nat.lt_succ_self _
  · rw [hpc] at hv
    split_ifs at hv
    · obtain rfl := Option.some.inj hv
      exact ⟨List.mem_append_right _ (List.mem_singleton_self _), fun r hr => hnew _ (h.reported r hr).1⟩
    · exact ⟨List.mem_append_left _ (h.active v c hv).1, (h.active v c hv).2⟩
  · rw [hpc] at hv hu
    split_ifs at hv hu with hvw huw huw
    · rw [hvw, huw]
    · obtain rfl := Option.some.inj hv
      exact absurd rfl (hnew _ (h.active u _ hu).1)
    · obtain rfl := Option.some.inj hu
      exact absurd rfl (hnew _ (h.active v _ hv).1)
    · exact h.single v u c hv hu
  · have hv : PointInv s ((s.goto w (.fetch ⟨change, s.clock⟩ 0)).pc v) := by
      rw [hpc]
      split_ifs
      · trivial
      · exact h.points v
    exact hv.congr rfl rfl rfl
  · obtain ⟨hmem, hended, hdone, hbefore⟩ := h.reported r hr
    exact ⟨List.mem_append_left _ hmem, Nat.lt_succ_of_lt hended, ⟨hdone.effect, hdone.spent⟩, hbefore⟩
  · obtain ⟨hmem, hstarted, htime⟩ := h.effects e he
    exact ⟨List.mem_append_left _ hmem, hstarted, Nat.lt_succ_of_lt htime⟩

/-- A call reports success. -/
theorem BaoInv.report (h : BaoInv kv s) (hw : s.pc w = .returning call) :
    BaoInv kv (tick { s.goto w .idle with reported := s.reported ++ [⟨call, s.clock⟩] }) := by
  have hgoto := h.goto (w := w) (p := .idle) (Or.inr rfl) trivial
  have hpc := goto_pc s w .idle
  have hcall : (s.pc w).call = some call := by rw [hw]; rfl
  have hdone : Done s call := by
    have hp := h.points w
    rw [hw] at hp
    exact hp
  refine ⟨hgoto.calls, hgoto.past, fun v c hv => ⟨(hgoto.active v c hv).1, fun r hr => ?_⟩, hgoto.single,
    fun v => (hgoto.points v).congr rfl rfl rfl, hgoto.ids, hgoto.sent, hgoto.fits, fun r hr => ?_, hgoto.document,
    hgoto.ordered, hgoto.effects⟩
  · rcases List.mem_append.1 hr with hr | hr
    · exact (hgoto.active v c hv).2 r hr
    · obtain rfl := List.mem_singleton.1 hr
      rintro rfl
      have hv' : ((s.goto w .idle).pc v).call = some call := hv
      rw [hpc] at hv'
      split_ifs at hv' with hvw
      · cases hv'
      · exact hvw (h.single v w call hv' hcall)
  · rcases List.mem_append.1 hr with hr | hr
    · obtain ⟨hmem, hended, hdone', hbefore⟩ := hgoto.reported r hr
      exact ⟨hmem, hended, ⟨hdone'.effect, hdone'.spent⟩, hbefore⟩
    · obtain rfl := List.mem_singleton.1 hr
      exact ⟨(h.active w call hcall).1, Nat.lt_succ_self _, ⟨hdone.effect, hdone.spent⟩, fun e he _ => (h.effects e he).2.2⟩

theorem perform_append (document : Document) (points : List Effect) (e : Effect) :
    perform document (points ++ [e]) = e.call.change.apply (perform document points) := by
  unfold perform
  rw [List.foldl_append]
  rfl

variable {attempt : ℕ}

/-- A call finds that there is nothing to delete. -/
theorem BaoInv.missing {ref : String} (h : BaoInv kv s) (hw : s.pc w = .fetch call attempt)
    (hchange : call.change = .delete ref) (hnone : s.kv.document ref = none) :
    BaoInv kv (tick { s.goto w (.returning call) with effects := s.effects ++ [⟨call, s.clock⟩] }) := by
  have hpc := goto_pc s w (.returning call)
  have hcall : (s.pc w).call = some call := by rw [hw]; rfl
  obtain ⟨hactive, hreported⟩ := h.active w call hcall
  have hcalls : ∀ v c, ((s.goto w (.returning call)).pc v).call = some c → (s.pc v).call = some c := by
    intro v c hv
    rw [hpc] at hv
    split_ifs at hv with hvw
    · rw [hvw, hcall]
      exact hv
    · exact hv
  have hspent : Spent s call := by
    intro r hr heq hstatus
    have hfits := h.fits r hr hstatus
    refine Nat.lt_of_le_of_ne hfits.le fun hcas => ?_
    rw [heq, hchange] at hfits
    exact hfits.present hcas rfl hnone
  refine ⟨h.calls, fun c hc => Nat.lt_succ_of_lt (h.past c hc), fun v c hv => h.active v c (hcalls v c hv),
    fun v u c hv hu => h.single v u c (hcalls v c hv) (hcalls u c hu), fun v => ?_, h.ids,
    fun r hr => ⟨Nat.lt_succ_of_lt (h.sent r hr).1, (h.sent r hr).2⟩, h.fits, fun r hr => ?_, ?_, ?_, fun e he => ?_⟩
  · show PointInv _ ((s.goto w (.returning call)).pc v)
    rw [hpc]
    split_ifs
    · exact ⟨⟨_, List.mem_append_right _ (List.mem_singleton_self _), rfl⟩, hspent⟩
    · refine (h.points v).mono (fun hf => hf) (fun c _ hc => ?_) fun r hr _ => ⟨r, hr, rfl, rfl, Or.inl⟩
      exact hc.mono (List.subset_append_left ..) le_rfl fun r hr hrc hstatus => ⟨r, hr, hrc, hstatus, rfl⟩
  · obtain ⟨hmem, hended, hdone, hbefore⟩ := h.reported r hr
    refine ⟨hmem, Nat.lt_succ_of_lt hended, ?_, fun e he heq => ?_⟩
    · exact hdone.mono (List.subset_append_left ..) le_rfl fun r hr hrc hstatus => ⟨r, hr, hrc, hstatus, rfl⟩
    · rcases List.mem_append.1 he with he | he
      · exact hbefore e he heq
      · obtain rfl := List.mem_singleton.1 he
        exact absurd heq.symm (hreported r hr)
  · show s.kv.document = perform kv.document (s.effects ++ [⟨call, s.clock⟩])
    rw [perform_append, ← h.document]
    show s.kv.document = call.change.apply s.kv.document
    rw [hchange]
    refine (Function.update_eq_self_iff.2 ?_).symm
    exact hnone.symm
  · exact List.pairwise_append.2 ⟨h.ordered, List.pairwise_singleton .., fun e he e' he' => by
      obtain rfl := List.mem_singleton.1 he'
      exact (h.effects e he).2.2⟩
  · rcases List.mem_append.1 he with he | he
    · obtain ⟨hmem, hstarted, htime⟩ := h.effects e he
      exact ⟨hmem, hstarted, Nat.lt_succ_of_lt htime⟩
    · obtain rfl := List.mem_singleton.1 he
      exact ⟨hactive, h.past call hactive, Nat.lt_succ_self _⟩

/-- A request is sent. -/
theorem BaoInv.send {document : Document} {cas : ℕ} (h : BaoInv kv s) (hw : s.pc w = .put call attempt document cas) :
    BaoInv kv (tick { s.goto w (.waiting call attempt s.clock) with
      requests := s.requests ++ [⟨s.clock, call, document, cas, .inflight⟩] }) := by
  have hpc := goto_pc s w (.waiting call attempt s.clock)
  have hcall : (s.pc w).call = some call := by rw [hw]; rfl
  obtain ⟨hactive, hreported⟩ := h.active w call hcall
  have hfits : Fits s.kv call.change document cas := by
    have hp := h.points w
    rw [hw] at hp
    exact hp
  have hcalls : ∀ v c, ((s.goto w (.waiting call attempt s.clock)).pc v).call = some c → (s.pc v).call = some c := by
    intro v c hv
    rw [hpc] at hv
    split_ifs at hv with hvw
    · rw [hvw, hcall]
      exact hv
    · exact hv
  -- The new request is of no other call.
  have hdone : ∀ c, c ≠ call → Done s c → Done (tick { s.goto w (.waiting call attempt s.clock) with
      requests := s.requests ++ [⟨s.clock, call, document, cas, .inflight⟩] }) c := by
    intro c hne hc
    refine hc.mono (List.Subset.refl _) le_rfl fun r' hr' hcall' hstatus => ?_
    rcases List.mem_append.1 hr' with hr' | hr'
    · exact ⟨r', hr', hcall', hstatus, rfl⟩
    · obtain rfl := List.mem_singleton.1 hr'
      exact absurd hcall'.symm hne
  refine ⟨h.calls, fun c hc => Nat.lt_succ_of_lt (h.past c hc), fun v c hv => h.active v c (hcalls v c hv),
    fun v u c hv hu => h.single v u c (hcalls v c hv) (hcalls u c hu), fun v => ?_, ?_, fun r hr => ?_, fun r hr hstatus => ?_,
    fun r hr => ?_, h.document, h.ordered, fun e he => ?_⟩
  · show PointInv _ ((s.goto w (.waiting call attempt s.clock)).pc v)
    rw [hpc]
    split_ifs with hvw
    · exact ⟨_, List.mem_append_right _ (List.mem_singleton_self _), rfl, rfl, nofun⟩
    · refine (h.points v).mono (fun hf => hf) (fun c hc => hdone c fun heq => ?_) fun r hr _ =>
        ⟨r, List.mem_append_left _ hr, rfl, rfl, Or.inl⟩
      rw [heq] at hc
      exact hvw (h.single v w call hc hcall)
  · refine nodup_map_append_new h.ids fun r hr heq => ?_
    exact Nat.ne_of_lt (h.sent r hr).1 heq
  · rcases List.mem_append.1 hr with hr | hr
    · exact ⟨Nat.lt_succ_of_lt (h.sent r hr).1, (h.sent r hr).2⟩
    · obtain rfl := List.mem_singleton.1 hr
      exact ⟨Nat.lt_succ_self _, hactive⟩
  · rcases List.mem_append.1 hr with hr | hr
    · exact h.fits r hr hstatus
    · obtain rfl := List.mem_singleton.1 hr
      exact hfits
  · obtain ⟨hmem, hended, hdone', hbefore⟩ := h.reported r hr
    exact ⟨hmem, Nat.lt_succ_of_lt hended, hdone r.call (hreported r hr) hdone', hbefore⟩
  · obtain ⟨hmem, hstarted, htime⟩ := h.effects e he
    exact ⟨hmem, hstarted, Nat.lt_succ_of_lt htime⟩

variable {requests : List Request} {id : ℕ} {status : RequestStatus}

theorem mem_settle {r' : Request} (h : r' ∈ requests.map fun r => if r.id = id then { r with status } else r) :
    ∃ r ∈ requests, r'.id = r.id ∧ r'.call = r.call ∧ r'.document = r.document ∧ r'.cas = r.cas ∧
      r'.status = if r.id = id then status else r.status := by
  obtain ⟨r, hr, rfl⟩ := List.mem_map.1 h
  refine ⟨r, hr, ?_⟩
  split_ifs <;> exact ⟨rfl, rfl, rfl, rfl, rfl⟩

theorem exists_settle {r : Request} (id : ℕ) (status : RequestStatus) (h : r ∈ requests) :
    ∃ r' ∈ requests.map fun r => if r.id = id then { r with status } else r, r'.id = r.id ∧ r'.call = r.call ∧
      r'.status = if r.id = id then status else r.status := by
  refine ⟨_, List.mem_map.2 ⟨r, h, rfl⟩, ?_⟩
  split_ifs <;> exact ⟨rfl, rfl, rfl⟩

theorem ids_settle (requests : List Request) (id : ℕ) (status : RequestStatus) :
    (requests.map fun r => if r.id = id then { r with status } else r).map (·.id) = requests.map (·.id) := by
  rw [List.map_map]
  refine List.map_congr_left fun r _ => ?_
  dsimp only [Function.comp]
  split_ifs <;> rfl

/-- The server refuses a request. -/
theorem BaoInv.refuse (h : BaoInv kv s) :
    BaoInv kv (tick { s with requests := s.requests.map fun r => if r.id = id then { r with status := .refused } else r }) := by
  have hdone : ∀ c, Done s c → Done (tick { s with
      requests := s.requests.map fun r => if r.id = id then { r with status := .refused } else r }) c := by
    intro c hc
    refine hc.mono (List.Subset.refl _) le_rfl fun r' hr' hcall' hstatus => ?_
    obtain ⟨r, hr, -, hcall, -, hcas, heq⟩ := mem_settle hr'
    rw [hstatus] at heq
    split_ifs at heq
    exact ⟨r, hr, hcall.symm.trans hcall', heq.symm, hcas.symm⟩
  refine ⟨h.calls, fun c hc => Nat.lt_succ_of_lt (h.past c hc), h.active, h.single, fun v => ?_, ?_, fun r' hr' => ?_,
    fun r' hr' hstatus => ?_, fun r hr => ?_, h.document, h.ordered, fun e he => ?_⟩
  · refine (h.points v).mono (fun hf => hf) (fun c _ => hdone c) fun r hr _ => ?_
    obtain ⟨r', hr', hid, hcall, hstatus⟩ := exists_settle id .refused hr
    refine ⟨r', hr', hid, hcall, fun hw => Or.inl ?_⟩
    rw [hstatus] at hw
    split_ifs at hw
    exact hw
  · rw [ids_settle]
    exact h.ids
  · obtain ⟨r, hr, hid, hcall, -⟩ := mem_settle hr'
    rw [hid, hcall]
    exact ⟨Nat.lt_succ_of_lt (h.sent r hr).1, (h.sent r hr).2⟩
  · obtain ⟨r, hr, -, hcall, hdocument, hcas, heq⟩ := mem_settle hr'
    rw [hstatus] at heq
    split_ifs at heq
    rw [hcall, hdocument, hcas]
    exact h.fits r hr heq.symm
  · obtain ⟨hmem, hended, hdone', hbefore⟩ := h.reported r hr
    exact ⟨hmem, Nat.lt_succ_of_lt hended, hdone r.call hdone', hbefore⟩
  · obtain ⟨hmem, hstarted, htime⟩ := h.effects e he
    exact ⟨hmem, hstarted, Nat.lt_succ_of_lt htime⟩

/-- The server writes the document of a request. -/
theorem BaoInv.write {x : Request} (h : BaoInv kv s) (hx : x ∈ s.requests) (hstatus : x.status = .inflight)
    (hcas : x.cas = s.kv.version) :
    BaoInv kv (tick { s with
      kv := ⟨some x.document, s.kv.version + 1⟩
      requests := s.requests.map fun r => if r.id = x.id then { r with status := .written } else r
      effects := s.effects ++ [⟨x.call, s.clock⟩] }) := by
  have hfits := h.fits x hx hstatus
  have hlater : ∀ {change document cas}, Fits s.kv change document cas →
      Fits ⟨some x.document, s.kv.version + 1⟩ change document cas := by
    intro change document cas hf
    have hlt : cas < s.kv.version + 1 := Nat.lt_succ_of_le hf.le
    exact ⟨hlt.le, fun heq => absurd heq hlt.ne, fun heq => absurd heq hlt.ne⟩
  -- Whatever has been sent names an older version now.
  have hspent : ∀ c, Spent (tick { s with
      kv := ⟨some x.document, s.kv.version + 1⟩
      requests := s.requests.map fun r => if r.id = x.id then { r with status := .written } else r
      effects := s.effects ++ [⟨x.call, s.clock⟩] }) c := by
    intro c r' hr' _ hinflight
    obtain ⟨r, hr, -, -, -, hcas', heq⟩ := mem_settle hr'
    rw [hinflight] at heq
    split_ifs at heq
    rw [hcas']
    exact Nat.lt_succ_of_le (h.fits r hr heq.symm).le
  refine ⟨h.calls, fun c hc => Nat.lt_succ_of_lt (h.past c hc), h.active, h.single, fun v => ?_, ?_, fun r' hr' => ?_,
    fun r' hr' hinflight => ?_, fun r hr => ?_, ?_, ?_, fun e he => ?_⟩
  · refine (h.points v).mono hlater (fun c _ hc => ?_) fun r hr _ => ?_
    · obtain ⟨e, he, hcall⟩ := hc.effect
      exact ⟨⟨e, List.mem_append_left _ he, hcall⟩, hspent c⟩
    · obtain ⟨r', hr', hid, hcall, heq⟩ := exists_settle x.id .written hr
      refine ⟨r', hr', hid, hcall, fun hw => ?_⟩
      rw [heq] at hw
      split_ifs at hw with hid'
      · obtain rfl := eq_of_key h.ids hr hx hid'
        exact Or.inr ⟨⟨_, List.mem_append_right _ (List.mem_singleton_self _), rfl⟩, hspent r.call⟩
      · exact Or.inl hw
  · rw [ids_settle]
    exact h.ids
  · obtain ⟨r, hr, hid, hcall, -⟩ := mem_settle hr'
    rw [hid, hcall]
    exact ⟨Nat.lt_succ_of_lt (h.sent r hr).1, (h.sent r hr).2⟩
  · obtain ⟨r, hr, -, hcall, hdocument, hcas', heq⟩ := mem_settle hr'
    rw [hinflight] at heq
    split_ifs at heq
    rw [hcall, hdocument, hcas']
    exact hlater (h.fits r hr heq.symm)
  · obtain ⟨hmem, hended, hdone, hbefore⟩ := h.reported r hr
    obtain ⟨e, he, hcall⟩ := hdone.effect
    refine ⟨hmem, Nat.lt_succ_of_lt hended, ⟨⟨e, List.mem_append_left _ he, hcall⟩, hspent r.call⟩, fun e' he' heq => ?_⟩
    rcases List.mem_append.1 he' with he' | he'
    · exact hbefore e' he' heq
    · obtain rfl := List.mem_singleton.1 he'
      exact absurd hcas (hdone.spent x hx heq hstatus).ne
  · show x.document = perform kv.document (s.effects ++ [⟨x.call, s.clock⟩])
    rw [perform_append, ← h.document]
    exact hfits.current hcas
  · exact List.pairwise_append.2 ⟨h.ordered, List.pairwise_singleton .., fun e he e' he' => by
      obtain rfl := List.mem_singleton.1 he'
      exact (h.effects e he).2.2⟩
  · rcases List.mem_append.1 he with he | he
    · obtain ⟨hmem, hstarted, htime⟩ := h.effects e he
      exact ⟨hmem, hstarted, Nat.lt_succ_of_lt htime⟩
    · obtain rfl := List.mem_singleton.1 he
      exact ⟨(h.sent x hx).2, h.past x.call (h.sent x hx).2, Nat.lt_succ_self _⟩

theorem fits_fetched (kv : KvSecret) (change : Change) (h : change.value = none → kv.document change.ref ≠ none) :
    Fits kv change (change.apply kv.document) kv.fetch.2 := by
  refine ⟨?_, fun _ => rfl, fun _ => h⟩
  unfold KvSecret.fetch
  split
  · exact Nat.zero_le _
  · exact le_rfl

theorem BaoInv.retry (h : BaoInv kv s) (hw : s.pc w = .waiting call attempt id) (text : String) :
    BaoInv kv (tick (s.goto w (afterError call attempt text))) := by
  unfold afterError
  split_ifs
  · exact h.goto (Or.inl (by rw [hw]; rfl)) trivial
  · exact h.goto (Or.inr rfl) trivial

theorem BaoInv.fetched {attempt : ℕ} (h : BaoInv kv s) (hw : s.pc w = .fetch call attempt) :
    BaoInv kv (tick (s.fetched w call attempt)) := by
  have hput : (call.change.value = none → s.kv.document call.change.ref ≠ none) →
      BaoInv kv (tick (s.goto w (.put call attempt (call.change.apply s.kv.document) s.kv.fetch.2))) := fun hpresent =>
    h.goto (Or.inl (by rw [hw]; rfl)) (fits_fetched s.kv call.change hpresent)
  unfold BaoSystem.fetched
  dsimp only
  split
  · rename_i hchange
    exact hput (by rw [hchange]; nofun)
  · rename_i ref hchange
    split_ifs with hnone
    · exact h.missing hw hchange (Option.isNone_iff_eq_none.1 hnone)
    · exact hput fun _ heq => hnone (by rw [hchange] at heq; exact Option.isNone_iff_eq_none.2 heq)

theorem mem_of_status (h : s.status id = some status) : ∃ r ∈ s.requests, r.id = id ∧ r.status = status := by
  obtain ⟨r, hfind, rfl⟩ := Option.map_eq_some_iff.1 h
  have hid := List.find?_some hfind
  exact ⟨r, List.mem_of_find?_eq_some hfind, of_decide_eq_true hid, rfl⟩

theorem BaoInv.answer (h : BaoInv kv s) (hw : s.pc w = .waiting call attempt id)
    (hstatus : s.status id = some .written) : BaoInv kv (tick (s.goto w (.returning call))) := by
  obtain ⟨r, hr, hid, hwritten⟩ := mem_of_status hstatus
  have hp := h.points w
  rw [hw] at hp
  obtain ⟨r', hr', hid', hcall, hdone⟩ := hp
  obtain rfl := eq_of_key h.ids hr hr' (hid.trans hid'.symm)
  exact h.goto (Or.inl (by rw [hw]; rfl)) (hdone hwritten)

theorem BaoInv.serve (h : BaoInv kv s) (id : ℕ) : BaoInv kv (tick (s.serve id)) := by
  unfold BaoSystem.serve
  split
  · exact h.stay
  · rename_i r hfind
    have hr := List.find?_some hfind
    obtain ⟨rfl, hstatus⟩ := of_decide_eq_true hr
    dsimp only
    split_ifs with hcas
    · exact h.write (List.mem_of_find?_eq_some hfind) hstatus hcas
    · exact h.refuse

theorem fetched_clock (s : BaoSystem) (w : ℕ) (call : Call) (attempt : ℕ) : (s.fetched w call attempt).clock = s.clock := by
  unfold BaoSystem.fetched
  dsimp only
  split
  · rfl
  · split_ifs <;> rfl

theorem serve_clock (s : BaoSystem) (id : ℕ) : (s.serve id).clock = s.clock := by
  unfold BaoSystem.serve
  split
  · rfl
  · dsimp only
    split_ifs <;> rfl

/-- Only the step itself moves the clock. -/
theorem step_eq (s : BaoSystem) (a : BaoAct) : s.step a = tick (s.act a) := by
  have hclock : (s.act a).clock = s.clock := by
    cases a with
    | fetch w =>
      dsimp only [BaoSystem.act]
      split
      · exact fetched_clock ..
      · rfl
    | serve id => exact serve_clock s id
    | answer w =>
      dsimp only [BaoSystem.act]
      split
      · split <;> rfl
      · rfl
    | die w => rfl
    | _ =>
      dsimp only [BaoSystem.act]
      split <;> rfl
  unfold BaoSystem.step tick
  rw [hclock]

/-- A step keeps the invariant. -/
theorem BaoInv.step (h : BaoInv kv s) (a : BaoAct) : BaoInv kv (s.step a) := by
  rw [step_eq]
  cases a with
  | call w available change =>
    dsimp only [BaoSystem.act]
    split
    · exact h.start
    · exact h.stay
  | fetch w =>
    dsimp only [BaoSystem.act]
    split
    · rename_i call attempt hw
      exact h.fetched hw
    · exact h.stay
  | send w =>
    dsimp only [BaoSystem.act]
    split
    · rename_i hw
      exact h.send hw
    · exact h.stay
  | serve id => exact h.serve id
  | answer w =>
    dsimp only [BaoSystem.act]
    split
    · rename_i call attempt id hw
      split
      · rename_i hstatus
        exact h.answer hw hstatus
      · exact h.retry hw _
      · exact h.stay
    · exact h.stay
  | error w exc =>
    dsimp only [BaoSystem.act]
    split
    · rename_i hw
      exact h.retry hw _
    · exact h.goto (Or.inr rfl) trivial
    · exact h.stay
  | ret w =>
    dsimp only [BaoSystem.act]
    split
    · rename_i hw
      exact h.report hw
    · exact h.stay
  | die w => exact h.goto (Or.inr rfl) trivial

theorem init_baoInv (kv : KvSecret) : BaoInv kv (.init kv) :=
  ⟨List.nodup_nil, nofun, nofun, nofun, fun _ => trivial, List.nodup_nil, nofun, nofun, nofun, rfl, .nil, nofun⟩

theorem run_baoInv (kv : KvSecret) (run : List BaoAct) : BaoInv kv (run.foldl BaoSystem.step (.init kv)) :=
  List.foldlRecOn run BaoSystem.step (init_baoInv kv) fun _ h a _ => h.step a

/-- Only the reference of the call whose request the server writes changes. -/
theorem only_its_reference (h : BaoInv kv s) (a : BaoAct) {ref : String} (hnot : ¬MayChange s a ref) :
    (s.step a).kv.document ref = s.kv.document ref := by
  cases a with
  | serve id =>
    show (s.serve id).kv.document ref = s.kv.document ref
    unfold BaoSystem.serve
    split
    · rfl
    · rename_i r hfind
      have hid := List.find?_some hfind
      obtain ⟨rfl, hstatus⟩ := of_decide_eq_true hid
      have hr := List.mem_of_find?_eq_some hfind
      dsimp only
      split_ifs with hcas
      · show r.document ref = s.kv.document ref
        rw [(h.fits r hr hstatus).current hcas]
        exact Function.update_of_ne (fun heq => hnot ⟨r, hr, rfl, heq.symm⟩) ..
      · rfl
  | call w available change =>
    show (s.act _).kv.document ref = _
    dsimp only [BaoSystem.act]
    split <;> rfl
  | fetch w =>
    show (s.act _).kv.document ref = _
    dsimp only [BaoSystem.act]
    split
    · unfold BaoSystem.fetched
      dsimp only
      split
      · rfl
      · split_ifs <;> rfl
    · rfl
  | answer w =>
    show (s.act _).kv.document ref = _
    dsimp only [BaoSystem.act]
    split
    · split <;> rfl
    · rfl
  | die w => rfl
  | send w =>
    show (s.act _).kv.document ref = _
    dsimp only [BaoSystem.act]
    split <;> rfl
  | error w exc =>
    show (s.act _).kv.document ref = _
    dsimp only [BaoSystem.act]
    split <;> rfl
  | ret w =>
    show (s.act _).kv.document ref = _
    dsimp only [BaoSystem.act]
    split <;> rfl

/-- The last effects of the calls are their points. -/
theorem BaoInv.linearized (h : BaoInv kv s) : Linearized kv s := by
  have hsub := lastOf_sublist (fun e : Effect => e.call) s.effects
  refine ⟨h.calls, lastOf (·.call) s.effects, ⟨h.ordered.sublist hsub, nodup_lastOf .., fun e he => ?_, fun r hr => ?_⟩, ?_⟩
  · obtain ⟨hmem, hstarted, -⟩ := h.effects e (hsub.subset he)
    exact ⟨hmem, hstarted⟩
  · obtain ⟨-, -, hdone, hbefore⟩ := h.reported r hr
    obtain ⟨e, he, hcall⟩ := hdone.effect
    obtain ⟨e', he', hcall'⟩ := exists_mem_lastOf (fun e : Effect => e.call) he
    exact ⟨e', he', hcall'.trans hcall, hbefore e' (hsub.subset he') (hcall'.trans hcall)⟩
  · rw [h.document]
    exact (overwrite_lastOf (fun e : Effect => e.call.change.ref) (fun e => e.call.change.value)
      (fun e _ e' _ heq => by rw [heq]) kv.document).symm

end Steps

/-- **Key result**: over any run, the calls that have reported success have taken effect at one moment each, between their
start and their end, and no step changes another reference than that of the call whose request is written. -/
theorem credentials_linearized (kv : KvSecret) (run : List BaoAct) :
    Linearized kv (run.foldl BaoSystem.step (.init kv)) ∧
      ∀ a ref, ¬MayChange (run.foldl BaoSystem.step (.init kv)) a ref →
        ((run.foldl BaoSystem.step (.init kv)).step a).kv.document ref = (run.foldl BaoSystem.step (.init kv)).kv.document ref :=
  ⟨(run_baoInv kv run).linearized, fun a _ => only_its_reference (run_baoInv kv run) a⟩

end JLMirror.Credentials
