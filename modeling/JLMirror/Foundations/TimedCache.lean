import Mathlib.Algebra.Order.Monoid.Defs
import Mathlib.Data.List.AList

/-!
# Reading through a cache whose entries expire

A source that changes is read through a cache, by any number of readers at once, over arbitrary types of times `τ`, keys
`κ`, sources `σ` and results `ρ`. A reader looks into the cache; where it finds nothing that has not expired, it queries
the source, stores the result and prunes the cache if it is full. Between these the others, the source and the clock go
on. An entry expires `ttl` after its reader *began*, not after its query.

## The model

`moments` is a ghost: what the source was, and when, after each step that changed it or the clock. An answer carries
those up to it.

## What is proved

* `Inv`, kept by each step: an entry, and what a reader holds, is what the source says at a moment that is not older than
  the time it is stamped with.
* **Key result** (`answered_recently`): an answer is what the source says at a moment later than `ttl` before its reader
  began.
* `read_alone`: a reader that is alone reads in one step.
-/

namespace JLMirror.Foundations

/-- What a reader is about to do. -/
inductive CacheReader (τ κ ρ : Type*) where
  | idle
  /-- It has found nothing. -/
  | waiting (key : κ) (stamp : τ)
  | queried (key : κ) (stamp : τ) (result : ρ)

/-- What a reader was told, and the moments until then. -/
structure CacheAnswer (τ κ σ ρ : Type*) where
  key : κ
  /-- When it began. -/
  start : τ
  result : ρ
  moments : List (τ × σ)

structure TimedCache (τ κ σ ρ : Type*) where
  source : σ
  clock : τ
  cache : AList fun _ : κ => ρ × τ
  readers : ℕ → CacheReader τ κ ρ
  moments : List (τ × σ)
  answers : List (CacheAnswer τ κ σ ρ)

inductive CacheAct (τ κ σ : Type*) where
  | start (w : ℕ) (key : κ)
  | query (w : ℕ)
  | fill (w : ℕ)
  /-- The query fails. -/
  | fail (w : ℕ)
  /-- Time goes on, to `t` at least. -/
  | advance (t : τ)
  | change (source : σ)
  /-- The process starts again. -/
  | restart

namespace TimedCache

variable {τ κ σ ρ : Type*} [LinearOrder τ] [DecidableEq κ]

/-- The process has just started. -/
def init (clock : τ) (source : σ) : TimedCache τ κ σ ρ :=
  ⟨source, clock, ∅, fun _ => .idle, [(clock, source)], []⟩

/-- The entries that have not expired. -/
def prune (clock : τ) (cache : AList fun _ : κ => ρ × τ) : AList fun _ : κ => ρ × τ where
  entries := cache.entries.filter fun e => clock < e.2.2
  nodupKeys := cache.nodupKeys.sublist List.filter_sublist

/-- What is remembered of a key and has not expired. -/
def live (clock : τ) (key : κ) (cache : AList fun _ : κ => ρ × τ) : Option ρ :=
  ((cache.lookup key).filter fun entry => clock < entry.2).map Prod.fst

/-- An entry is stored, and the cache is pruned if it holds more than `limit`. -/
def store (limit : ℕ) (clock : τ) (key : κ) (entry : ρ × τ) (cache : AList fun _ : κ => ρ × τ) :
    AList fun _ : κ => ρ × τ :=
  if limit < (cache.insert key entry).entries.length then prune clock (cache.insert key entry)
  else cache.insert key entry

/-- A reader is told a result. -/
def answer (s : TimedCache τ κ σ ρ) (w : ℕ) (key : κ) (start : τ) (result : ρ) : TimedCache τ κ σ ρ :=
  { s with
    readers := Function.update s.readers w .idle
    answers := s.answers ++ [⟨key, start, result, s.moments⟩] }

variable [Add τ] (query : σ → κ → ρ) (ttl : τ) (limit : ℕ)

def step (s : TimedCache τ κ σ ρ) : CacheAct τ κ σ → TimedCache τ κ σ ρ
  | .start w key =>
    match s.readers w with
    | .idle =>
      match live s.clock key s.cache with
      | some result => s.answer w key s.clock result
      | none => { s with readers := Function.update s.readers w (.waiting key s.clock) }
    | _ => s
  | .query w =>
    match s.readers w with
    | .waiting key stamp =>
      { s with readers := Function.update s.readers w (.queried key stamp (query s.source key)) }
    | _ => s
  | .fill w =>
    match s.readers w with
    | .queried key stamp result =>
      { s with cache := store limit s.clock key (result, stamp + ttl) s.cache }.answer w key stamp result
    | _ => s
  | .fail w => { s with readers := Function.update s.readers w .idle }
  | .advance t => { s with clock := max s.clock t, moments := s.moments ++ [(max s.clock t, s.source)] }
  | .change source => { s with source := source, moments := s.moments ++ [(s.clock, source)] }
  | .restart => { s with cache := ∅, readers := fun _ => .idle }

/-- The state after a run. -/
def exec (s : TimedCache τ κ σ ρ) (run : List (CacheAct τ κ σ)) : TimedCache τ κ σ ρ :=
  run.foldl (step query ttl limit) s

/-! ### The invariant -/

/-- The source gave this result of a key, at a moment with `ok`. -/
def Says (moments : List (τ × σ)) (ok : τ → Prop) (key : κ) (result : ρ) : Prop :=
  ∃ m ∈ moments, ok m.1 ∧ query m.2 key = result

/-- What a reader holds. -/
def ReaderSound (clock : τ) (moments : List (τ × σ)) : CacheReader τ κ ρ → Prop
  | .idle => True
  | .waiting _ stamp => stamp ≤ clock
  | .queried key stamp result => Says query moments (stamp ≤ ·) key result

structure Inv (s : TimedCache τ κ σ ρ) : Prop where
  /-- What the source is now is one of the moments. -/
  current : (s.clock, s.source) ∈ s.moments
  cached : ∀ key entry, s.cache.lookup key = some entry → Says query s.moments (entry.2 ≤ · + ttl) key entry.1
  readers : ∀ w, ReaderSound query s.clock s.moments (s.readers w)
  answers : ∀ a ∈ s.answers, Says query a.moments (a.start < · + ttl) a.key a.result

section Steps

variable {query} {ttl} {limit} {s : TimedCache τ κ σ ρ} {moments moments' : List (τ × σ)} {ok ok' : τ → Prop} {key : κ}
  {result : ρ}

omit [LinearOrder τ] [DecidableEq κ] [Add τ] in
theorem Says.mono (h : Says query moments ok key result) (hmoments : moments ⊆ moments') (hok : ∀ t, ok t → ok' t) :
    Says query moments' ok' key result := by
  obtain ⟨m, hm, ht, hquery⟩ := h
  exact ⟨m, hmoments hm, hok _ ht, hquery⟩

omit [DecidableEq κ] [Add τ] in
/-- What a reader holds stays sound, as time goes on and there are more moments. -/
theorem ReaderSound.later {clock clock' : τ} {reader : CacheReader τ κ ρ} (h : ReaderSound query clock moments reader)
    (hclock : clock ≤ clock') (hmoments : moments ⊆ moments') : ReaderSound query clock' moments' reader := by
  cases reader with
  | idle => trivial
  | waiting key stamp => exact le_trans h hclock
  | queried key stamp result => exact h.mono hmoments fun _ => id

omit [Add τ] in
theorem lookup_prune {clock : τ} {cache : AList fun _ : κ => ρ × τ} {entry : ρ × τ}
    (h : (prune clock cache).lookup key = some entry) : cache.lookup key = some entry := by
  rw [← Option.mem_def, AList.mem_lookup_iff] at h ⊢
  exact List.mem_of_mem_filter h

omit [Add τ] in
theorem lookup_store {clock : τ} {cache : AList fun _ : κ => ρ × τ} {key' : κ} {entry entry' : ρ × τ}
    (h : (store limit clock key entry cache).lookup key' = some entry') :
    key' = key ∧ entry' = entry ∨ cache.lookup key' = some entry' := by
  have hinsert : (cache.insert key entry).lookup key' = some entry' := by
    unfold store at h
    split_ifs at h
    · exact lookup_prune h
    · exact h
  by_cases hkey : key' = key
  · subst hkey
    rw [AList.lookup_insert, Option.some_inj] at hinsert
    exact .inl ⟨rfl, hinsert.symm⟩
  · rw [AList.lookup_insert_ne hkey] at hinsert
    exact .inr hinsert

omit [Add τ] in
theorem live_eq_some {clock : τ} {cache : AList fun _ : κ => ρ × τ} (h : live clock key cache = some result) :
    ∃ expire, cache.lookup key = some (result, expire) ∧ clock < expire := by
  simp only [live, Option.map_eq_some_iff, Option.filter_eq_some_iff, decide_eq_true_eq] at h
  obtain ⟨⟨r, expire⟩, ⟨hlookup, hlive⟩, rfl⟩ := h
  exact ⟨expire, hlookup, hlive⟩

theorem inv_init {clock : τ} {source : σ} : (init clock source : TimedCache τ κ σ ρ).Inv query ttl where
  current := List.mem_singleton_self _
  cached := by simp [init]
  readers := fun _ => trivial
  answers := fun a ha => absurd ha List.not_mem_nil

/-- A reader goes on. -/
theorem Inv.reader (h : s.Inv query ttl) {w : ℕ} {reader : CacheReader τ κ ρ}
    (hreader : ReaderSound query s.clock s.moments reader) :
    ({ s with readers := Function.update s.readers w reader } : TimedCache τ κ σ ρ).Inv query ttl where
  current := h.current
  cached := h.cached
  readers := by
    intro v
    change ReaderSound query s.clock s.moments (Function.update s.readers w reader v)
    by_cases hv : v = w
    · subst hv
      rwa [Function.update_self]
    · rw [Function.update_of_ne hv]
      exact h.readers v
  answers := h.answers

theorem Inv.answer (h : s.Inv query ttl) {w : ℕ} {start : τ} (htold : Says query s.moments (start < · + ttl) key result) :
    (s.answer w key start result).Inv query ttl where
  current := h.current
  cached := h.cached
  readers := by
    have hidle : ReaderSound query s.clock s.moments (.idle : CacheReader τ κ ρ) := trivial
    exact (h.reader hidle).readers
  answers := by
    intro a ha
    rcases List.mem_append.1 ha with ha | ha
    · exact h.answers a ha
    · rw [List.mem_singleton] at ha
      subst ha
      exact htold

theorem Inv.moment (h : s.Inv query ttl) {clock : τ} {source : σ} (hclock : s.clock ≤ clock) :
    ({ s with clock := clock, source := source, moments := s.moments ++ [(clock, source)] } :
      TimedCache τ κ σ ρ).Inv query ttl where
  current := List.mem_append_right _ (List.mem_singleton_self _)
  cached := fun key entry hlookup => (h.cached key entry hlookup).mono (List.subset_append_left _ _) fun _ => id
  readers := fun w => (h.readers w).later hclock (List.subset_append_left _ _)
  answers := h.answers

theorem read_alone {w : ℕ} (hidle : s.readers w = .idle) :
    exec query ttl limit s [.start w key, .query w, .fill w] =
      match live s.clock key s.cache with
      | some result => s.answer w key s.clock result
      | none =>
        { s with cache := store limit s.clock key (query s.source key, s.clock + ttl) s.cache }.answer w key s.clock
          (query s.source key) := by
  cases hlive : live s.clock key s.cache <;> simp [exec, step, hidle, hlive, answer]

end Steps

section Ordered

variable {τ : Type*} [AddCommMonoid τ] [LinearOrder τ] [IsOrderedCancelAddMonoid τ]
variable {query : σ → κ → ρ} {ttl : τ} {limit : ℕ} {s : TimedCache τ κ σ ρ}

/-- A reader stores what it has queried. -/
theorem Inv.store (h : s.Inv query ttl) {key : κ} {stamp : τ} {result : ρ}
    (htold : Says query s.moments (stamp ≤ ·) key result) :
    ({ s with cache := store limit s.clock key (result, stamp + ttl) s.cache } : TimedCache τ κ σ ρ).Inv query ttl where
  current := h.current
  cached := by
    intro key' entry hlookup
    rcases lookup_store hlookup with ⟨rfl, rfl⟩ | hlookup
    · exact htold.mono (List.Subset.refl _) fun t ht => add_le_add_left ht ttl
    · exact h.cached key' entry hlookup
  readers := h.readers
  answers := h.answers

theorem Inv.step (hpos : 0 < ttl) (h : s.Inv query ttl) (a : CacheAct τ κ σ) :
    (s.step query ttl limit a).Inv query ttl := by
  cases a with
  | start w key =>
    rw [TimedCache.step]
    cases hreader : s.readers w with
    | idle =>
      dsimp only
      cases hlive : live s.clock key s.cache with
      | none => exact h.reader (le_refl s.clock)
      | some result =>
        obtain ⟨expire, hlookup, hexpire⟩ := live_eq_some hlive
        exact h.answer ((h.cached key _ hlookup).mono (List.Subset.refl _) fun _ ht => lt_of_lt_of_le hexpire ht)
    | _ => exact h
  | query w =>
    rw [TimedCache.step]
    have hsound := h.readers w
    cases hreader : s.readers w with
    | waiting key stamp =>
      rw [hreader] at hsound
      exact h.reader ⟨_, h.current, hsound, rfl⟩
    | _ => exact h
  | fill w =>
    rw [TimedCache.step]
    have hsound := h.readers w
    cases hreader : s.readers w with
    | queried key stamp result =>
      rw [hreader] at hsound
      refine (h.store hsound).answer (Says.mono hsound (List.Subset.refl _) fun t ht => ?_)
      exact lt_of_le_of_lt ht (lt_add_of_pos_right t hpos)
    | _ => exact h
  | fail w => exact h.reader trivial
  | advance t => exact h.moment (le_max_left _ _)
  | change source => exact h.moment (le_refl _)
  | restart =>
    exact { current := h.current, cached := by simp [TimedCache.step], readers := fun _ => trivial, answers := h.answers }

/-- An answer is what the source says of the key at a moment, not after the answer, that is later than `ttl` before its
reader began. -/
theorem answered_recently (hpos : 0 < ttl) (clock : τ) (source : σ) (run : List (CacheAct τ κ σ))
    {a : CacheAnswer τ κ σ ρ} (ha : a ∈ (exec query ttl limit (init clock source) run).answers) :
    ∃ m ∈ a.moments, a.start < m.1 + ttl ∧ query m.2 a.key = a.result := by
  have hinv : (exec query ttl limit (init clock source) run).Inv query ttl :=
    List.foldlRecOn run _ inv_init fun _ h act _ => h.step hpos act
  exact hinv.answers a ha

end Ordered

end TimedCache

end JLMirror.Foundations
