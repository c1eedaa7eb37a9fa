import JLMirror.Access.RateLimit
import JLMirror.Foundations.Run

/-!
# The windows of the rate limiter

"PostgreSQL-backed sliding window", sixty requests a minute. The counter is that of the minute of the clock in which a
request comes: in the seconds around the turn of a minute, two counters let through sixty requests each.

## The model

* `early` are the requests that are among the first sixty of their minute, in the order in which they are counted.
* `Counts` is the condition on a step: no statement fails, and a request is counted before its row may have been pruned.

## What is proved

* `answered_early`: where every request is counted, those that are let through are the early ones.
* `minute_bound`: at most sixty in each minute of the clock.
* **Key result** (`rate_law_iff`): the law holds in every sixty seconds, if and only if it holds of the early requests in
  those that begin inside of a minute.
* `turn_of_minute`: sixty requests at the end of a minute and one in the next are all let through.
-/

namespace JLMirror.Access

open JLMirror.Foundations JLMirror.Monitoring

/-! ### The claim -/

/-- The request is of the key, and in the sixty seconds. -/
def RateRequest.within (key_digest : String) (t : Timestamp) (r : RateRequest) : Bool :=
  r.key_digest = key_digest ∧ t ≤ r.time ∧ r.time < t + minute

/-- The requests that were let through. -/
def RateSystem.accepted (s : RateSystem) : List RateRequest := (s.answers.filter (·.ok)).map (·.request)

/-- At most sixty requests of a key are let through in any sixty consecutive seconds. -/
def RateLaw (s : RateSystem) : Prop := ∀ key_digest t, s.accepted.countP (·.within key_digest t) ≤ _RATE_LIMIT_RPM

/-- Those of the requests that are among the first sixty of their row; `seen` are those before. -/
def earlyFrom (seen : List RateRequest) : List RateRequest → List RateRequest
  | [] => []
  | r :: rest =>
    (if (seen.countP fun x => x.row = r.row) < _RATE_LIMIT_RPM then [r] else []) ++ earlyFrom (seen ++ [r]) rest

/-- The requests that are among the first sixty of their minute. -/
def early (counted : List RateRequest) : List RateRequest := earlyFrom [] counted

/-- In the sixty seconds around the turn of a minute, at most sixty requests of a key are early. -/
def EarlyAtTurns (counted : List RateRequest) : Prop :=
  ∀ key_digest t, ¬minute ∣ t → (early counted).countP (·.within key_digest t) ≤ _RATE_LIMIT_RPM

/-- No statement fails, and a request is counted at most five minutes after that of its time. -/
def Counts (s : RateSystem) : RateAct → Bool
  | .pruneFails _ => false
  | .fail _ => false
  | .next w =>
    match s.core.pc w with
    | .upsert r => s.clock / minute ≤ r.window + 5
    | _ => true
  | _ => true

/-! ### Early requests -/

section Early

variable {seen l : List RateRequest} {r : RateRequest}

theorem earlyFrom_append : earlyFrom seen (l ++ [r]) =
    earlyFrom seen l ++ if ((seen ++ l).countP fun x => x.row = r.row) < _RATE_LIMIT_RPM then [r] else [] := by
  induction l generalizing seen with
  | nil => simp [earlyFrom]
  | cons x l ih => simp [earlyFrom, ih]

theorem early_append : early (l ++ [r]) =
    early l ++ if (l.countP fun x => x.row = r.row) < _RATE_LIMIT_RPM then [r] else [] := by
  rw [early, earlyFrom_append, List.nil_append]
  rfl

/-- At most sixty requests of a row are early, and those are all that there are, if there are fewer. -/
theorem countP_early (k : String × ℤ) :
    (early l).countP (fun x => x.row = k) = min _RATE_LIMIT_RPM (l.countP fun x => x.row = k) := by
  induction l using List.reverseRecOn with
  | nil => simp [early, earlyFrom]
  | append_singleton l r ih =>
    rw [early_append, List.countP_append, List.countP_append, ih, List.countP_singleton]
    by_cases hk : r.row = k
    · subst hk
      split_ifs <;> simp_all <;> omega
    · split_ifs <;> simp_all

end Early

/-! ### The sessions -/

/-- The writes of a request at its point. -/
def RatePoint.writes : RatePoint → List RateWrite
  | .select r _ => [.count r.row]
  | .prune r _ deleted _ => .count r.row :: deleted.map .delete
  | .commit r _ deleted => .count r.row :: deleted.map .delete
  | _ => []

/-- What a request relies on at its point: its count is one more than what is committed, and the rows that it deletes are
those of minutes that are over. -/
def RatePoint.Sound (clock : Timestamp) (counted : List RateRequest) : RatePoint → Prop
  | .idle => True
  | .upsert r => r.time ≤ clock
  | .select r n => r.time ≤ clock ∧ n = counted.countP (·.row = r.row) + 1
  | .prune r n deleted rest =>
    n = counted.countP (·.row = r.row) + 1 ∧ ∀ k ∈ deleted ++ rest, k.2 + 5 < clock / minute
  | .commit r n deleted => n = counted.countP (·.row = r.row) + 1 ∧ ∀ k ∈ deleted, k.2 + 5 < clock / minute
  | .aborted _ _ => False

section Sound

variable {p : RatePoint} {clock : Timestamp} {counted : List RateRequest}

theorem ediv_minute_mono {t t' : Timestamp} (h : t ≤ t') : t / minute ≤ t' / minute :=
  Int.ediv_le_ediv (c := minute) (by decide) h

/-- What a request relies on stays so as time goes on. -/
theorem RatePoint.Sound.later {clock' : Timestamp} (hclock : clock ≤ clock') (h : p.Sound clock counted) :
    p.Sound clock' counted := by
  have hminute := ediv_minute_mono hclock
  cases p with
  | idle => trivial
  | upsert r => exact Int.le_trans h hclock
  | select r n => exact ⟨Int.le_trans h.1 hclock, h.2⟩
  | prune r n deleted rest => exact ⟨h.1, fun k hk => Int.lt_of_lt_of_le (h.2 k hk) hminute⟩
  | commit r n deleted => exact ⟨h.1, fun k hk => Int.lt_of_lt_of_le (h.2 k hk) hminute⟩
  | aborted r n => exact h

/-- A request whose row no other has does not rely on what another commits. -/
theorem RatePoint.Sound.counts {r : RateRequest}
    (h : p.Sound clock counted) (hrow : ∀ y ∈ p.writes, r.row ≠ y.row) : p.Sound clock (counted ++ [r]) := by
  have hcount : ∀ r' : RateRequest, RateWrite.count r'.row ∈ p.writes →
      (counted ++ [r]).countP (·.row = r'.row) = counted.countP (·.row = r'.row) := by
    intro r' hr'
    have hne : ¬r.row = r'.row := hrow _ hr'
    simp [List.countP_append, hne]
  cases p with
  | idle => trivial
  | upsert r' => exact h
  | select r' n => exact ⟨h.1, by rw [hcount r' (by simp [RatePoint.writes])]; exact h.2⟩
  | prune r' n deleted rest => exact ⟨by rw [hcount r' (by simp [RatePoint.writes])]; exact h.1, h.2⟩
  | commit r' n deleted => exact ⟨by rw [hcount r' (by simp [RatePoint.writes])]; exact h.1, h.2⟩
  | aborted r' n => exact h

end Sound

/-- What holds of a session. -/
def RateLocal (clock : Timestamp) (counted : List RateRequest) (_ : List RateCount) (ws : List RateWrite)
    (p : RatePoint) : Prop :=
  ws = p.writes ∧ p.Sound clock counted

/-- What holds in every state of a run that counts every request. -/
structure RateSystem.Inv (s : RateSystem) : Prop where
  sessions : Sessions.Inv (fun _ => True) (RateLocal s.clock s.counted) s.core
  exclusive : s.core.tx.Exclusive RateWrite.row
  /-- The rows that may still be counted in are the counts. -/
  live : ∀ k : String × ℤ, s.clock / minute ≤ k.2 + 5 → countOf s.rows k = s.counted.countP (·.row = k)
  accepted : s.accepted = early s.counted

namespace RateSystem

variable {s : RateSystem} {w : ℕ} {p : RatePoint} {x : RateWrite}

theorem inv_init : RateSystem.init.Inv where
  sessions := Sessions.inv_init trivial ⟨rfl, trivial⟩
  exclusive := fun _ hx => absurd hx List.not_mem_nil
  live := fun _ _ => rfl
  accepted := rfl

theorem Inv.sound (h : s.Inv) (hpc : s.core.pc w = p) : p.Sound s.clock s.counted := hpc ▸ (h.sessions.sessions w).2

theorem Inv.goto (h : s.Inv) (hwrites : p.writes = (s.core.pc w).writes) (hsound : p.Sound s.clock s.counted) :
    (s.goto w p).Inv where
  sessions := Sessions.inv_goto h.sessions ⟨(h.sessions.sessions w).1.trans hwrites.symm, hsound⟩
  exclusive := h.exclusive
  live := h.live
  accepted := h.accepted

theorem Inv.write (h : s.Inv) (hwrites : p.writes = (s.core.pc w).writes ++ [x]) (hsound : p.Sound s.clock s.counted) :
    (s.write w x p).Inv where
  sessions := Sessions.inv_write h.sessions ⟨by rw [(h.sessions.sessions w).1, hwrites], hsound⟩
  exclusive := by
    unfold RateSystem.write Sessions.write
    split_ifs with hlocked
    · exact h.exclusive
    · exact h.exclusive.write (Bool.eq_false_iff.2 hlocked)
  live := by
    have hrows : (s.write w x p).rows = s.rows := by
      unfold RateSystem.write RateSystem.rows Sessions.write
      split_ifs <;> rfl
    rw [hrows]
    exact h.live
  accepted := h.accepted

theorem Inv.rollback (h : s.Inv) : ({ s with core := s.core.rollback .idle w } : RateSystem).Inv where
  sessions := Sessions.inv_rollback h.sessions ⟨rfl, trivial⟩
  exclusive := h.exclusive.rollback
  live := h.live
  accepted := h.accepted

theorem Inv.advance (h : s.Inv) (t : Timestamp) : ({ s with clock := max s.clock t } : RateSystem).Inv where
  sessions := ⟨trivial, fun v => ⟨(h.sessions.sessions v).1, (h.sessions.sessions v).2.later (Int.le_max_left _ _)⟩⟩
  exclusive := h.exclusive
  live := fun k hk => h.live k (Int.le_trans (ediv_minute_mono (Int.le_max_left _ _)) hk)
  accepted := h.accepted

theorem Inv.view_eq (h : s.Inv) (w : ℕ) : s.view w = (s.core.pc w).writes.foldl (fun rows x => x.apply rows) s.rows := by
  rw [← (h.sessions.sessions w).1]
  exact Sessions.view_eq s.core w

theorem countOf_deletes {deleted : List (String × ℤ)} {k : String × ℤ} (hk : k ∉ deleted) (rows : List RateCount) :
    countOf ((deleted.map RateWrite.delete).foldl (fun rows x => x.apply rows) rows) k = countOf rows k := by
  induction deleted generalizing rows with
  | nil => rfl
  | cons k' deleted ih =>
    rw [List.mem_cons, not_or] at hk
    rw [List.map_cons, List.foldl_cons, ih hk.2, countOf_delete, if_neg (Ne.symm hk.1)]

theorem Inv.row_ne (h : s.Inv) {v : ℕ} (hv : v ≠ w) {x y : RateWrite} (hx : x ∈ (s.core.pc w).writes)
    (hy : y ∈ (s.core.pc v).writes) : x.row ≠ y.row := by
  rw [← (h.sessions.sessions w).1, WriteLog.mem_writes] at hx
  rw [← (h.sessions.sessions v).1, WriteLog.mem_writes] at hy
  exact fun hrow => hv (h.exclusive _ hx _ hy hrow).symm

theorem Inv.commit (h : s.Inv) {r : RateRequest} {n : ℕ} {deleted : List (String × ℤ)}
    (hpc : s.core.pc w = .commit r n deleted) : (s.commit w r n).Inv where
  sessions := by
    refine Sessions.inv_step (w := w) (p := RatePoint.idle) rfl trivial ⟨WriteLog.writes_commit, trivial⟩
      fun v hv => ⟨(WriteLog.writes_commit_of_ne hv).trans (h.sessions.sessions v).1, ?_⟩
    refine (h.sessions.sessions v).2.counts fun y hy => ?_
    exact h.row_ne hv (x := .count r.row) (by simp [hpc, RatePoint.writes]) hy
  exclusive := h.exclusive.commit
  live := by
    intro k hk
    obtain ⟨-, hold⟩ := h.sound hpc
    have hrows : (s.commit w r n).rows = s.view w := rfl
    have hdeleted : k ∉ deleted := fun hmem => absurd (hold k hmem) (Int.not_lt.2 hk)
    rw [hrows, h.view_eq, hpc]
    have hcount := countOf_deletes hdeleted ((RateWrite.count r.row).apply s.rows)
    refine (hcount.trans countOf_upsert).trans ?_
    rw [h.live k hk]
    simp [RateSystem.commit, List.countP_append, List.countP_singleton]
  accepted := by
    obtain ⟨hn, -⟩ := h.sound hpc
    have haccepted : s.accepted = early s.counted := h.accepted
    have hok : decide (n ≤ _RATE_LIMIT_RPM) = decide (s.counted.countP (·.row = r.row) < _RATE_LIMIT_RPM) := by
      rw [hn]
      rfl
    have hcommit : (s.commit w r n).accepted = s.accepted ++ if n ≤ _RATE_LIMIT_RPM then [r] else [] := by
      simp only [RateSystem.accepted, RateSystem.commit, List.filter_append, List.map_append]
      by_cases hle : n ≤ _RATE_LIMIT_RPM <;> simp [hle]
    rw [hcommit, haccepted]
    refine Eq.trans ?_ early_append.symm
    congr 1
    exact if_congr (decide_eq_decide.1 hok) rfl rfl

theorem Inv.next (h : s.Inv) (hcounts : Counts s (.next w) = true) : (s.next w).Inv := by
  rw [RateSystem.next]
  cases hpc : s.core.pc w with
  | idle => exact h
  | upsert r =>
    have hlive : s.clock / minute ≤ r.window + 5 := by simpa [Counts, hpc] using hcounts
    have hview : s.view w = s.rows := by rw [h.view_eq, hpc]; rfl
    refine h.write (by rw [hpc]; rfl) ⟨h.sound hpc, ?_⟩
    rw [hview, h.live r.row hlive]
  | select r n =>
    obtain ⟨htime, hn⟩ := h.sound hpc
    refine h.goto (by rw [hpc]; rfl) ⟨hn, fun k hk => ?_⟩
    -- what it is about to delete is older than its own minute by more than five
    have hminute : r.window ≤ s.clock / minute := ediv_minute_mono htime
    simp only [List.nil_append, List.mem_map, List.mem_filter, decide_eq_true_eq] at hk
    obtain ⟨x, ⟨-, hx⟩, rfl⟩ := hk
    change x.window_min + 5 < s.clock / minute
    omega
  | prune r n deleted rest =>
    obtain ⟨hn, hold⟩ := h.sound hpc
    cases rest with
    | nil => exact h.goto (by rw [hpc]; rfl) ⟨hn, fun k hk => hold k (by simpa using hk)⟩
    | cons k rest =>
      dsimp only
      split_ifs
      · refine h.write (by rw [hpc]; simp [RatePoint.writes]) ⟨hn, fun k' hk' => hold k' ?_⟩
        simpa using hk'
      · refine h.goto (by rw [hpc]; rfl) ⟨hn, fun k' hk' => hold k' ?_⟩
        rw [List.mem_append] at hk' ⊢
        exact hk'.imp id (List.mem_cons_of_mem k)
  | commit r n deleted => exact h.commit hpc
  | aborted r n => exact (h.sound hpc).elim

theorem Inv.step (h : s.Inv) (a : RateAct) (hcounts : Counts s a = true) : (s.step a).Inv := by
  cases a with
  | request w key_digest =>
    rw [RateSystem.step]
    cases hpc : s.core.pc w with
    | idle => exact h.goto (by rw [hpc]; rfl) (Int.le_refl _)
    | _ => exact h
  | next w => exact h.next hcounts
  | pruneFails w => simp [Counts] at hcounts
  | fail w => simp [Counts] at hcounts
  | die w => exact h.rollback
  | advance t => exact h.advance t

theorem inv_exec {run : List RateAct} (hrun : Guarded RateSystem.step (fun s a => Counts s a = true) .init run) :
    (exec run).Inv :=
  hrun.invariant (fun _ a h hcounts => h.step a hcounts) inv_init

end RateSystem

/-! ### The law -/

section Law

variable {run : List RateAct}

theorem answered_early (hrun : Guarded RateSystem.step (fun s a => Counts s a = true) .init run) :
    (RateSystem.exec run).accepted = early (RateSystem.exec run).counted :=
  (RateSystem.inv_exec hrun).accepted

theorem minute_bound (hrun : Guarded RateSystem.step (fun s a => Counts s a = true) .init run) (k : String × ℤ) :
    (RateSystem.exec run).accepted.countP (·.row = k) ≤ _RATE_LIMIT_RPM := by
  rw [answered_early hrun, countP_early]
  exact Nat.min_le_left _ _

/-- Sixty seconds that begin with a minute are that minute. -/
theorem RateRequest.row_of_within {r : RateRequest} {key_digest : String} {t : Timestamp} (ht : minute ∣ t)
    (hr : r.within key_digest t = true) : r.row = (key_digest, t / minute) := by
  simp only [RateRequest.within, decide_eq_true_eq] at hr
  obtain ⟨rfl, hfrom, hto⟩ := hr
  have hwindow : r.window = t / minute := by
    obtain ⟨m, rfl⟩ := ht
    have hpos : minute ≠ 0 := by decide
    have hinside : ∀ x : ℤ, 60000000 * m ≤ x → x < 60000000 * m + 60000000 → x / 60000000 = m := by
      intro x hx hx'
      omega
    rw [RateRequest.window, Int.mul_ediv_cancel_left m hpos]
    exact hinside r.time hfrom hto
  rw [RateRequest.row, hwindow]

/-- In a run that counts every request, at most sixty requests of a key are let through in any sixty consecutive
seconds if and only if this holds of the early requests at the turns of the minutes. -/
theorem rate_law_iff (run : List RateAct)
    (hrun : Guarded RateSystem.step (fun s a => Counts s a = true) .init run) :
    RateLaw (RateSystem.exec run) ↔ EarlyAtTurns (RateSystem.exec run).counted := by
  rw [RateLaw, EarlyAtTurns]
  constructor
  · intro hlaw key_digest t _
    rw [← answered_early hrun]
    exact hlaw key_digest t
  · intro hturns key_digest t
    by_cases ht : minute ∣ t
    · have hrow : ∀ r ∈ (RateSystem.exec run).accepted, r.within key_digest t = true →
          decide (r.row = (key_digest, t / minute)) = true :=
        fun r _ hr => decide_eq_true (RateRequest.row_of_within ht hr)
      exact (List.countP_mono_left hrow).trans (minute_bound hrun _)
    · rw [answered_early hrun]
      exact hturns key_digest t ht

end Law

/-- The statements of a request. -/
def served (key_digest : String) : List RateAct :=
  .request 0 key_digest :: List.replicate 4 (.next 0)

/-- Sixty requests in the last tenth of a second of a minute, and one a tenth of a second later. -/
def turnOfMinute : List RateAct :=
  .advance 59900000 :: (List.replicate 60 (served "k")).flatten ++ .advance 60000000 :: served "k"

/-- Two requests, one after the other. -/
theorem rate_law_served : RateLaw (RateSystem.exec (served "k" ++ served "k")) ↔
    EarlyAtTurns (RateSystem.exec (served "k" ++ served "k")).counted :=
  rate_law_iff _ (by decide)

/-- All of them are let through, each counted in its minute. -/
theorem turn_of_minute : ¬RateLaw (RateSystem.exec turnOfMinute) := by
  intro h
  have hall := h "k" 59900000
  revert hall
  decide +kernel

end JLMirror.Access
