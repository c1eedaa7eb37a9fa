import JLMirror.Foundations.Sessions
import JLMirror.Foundations.Table
import JLMirror.Monitoring.Operations

/-!
# The rate limiter of the API keys

`_rate_ok` of `api/main.py` over the table of `sql/g1/024_api_rate_limit.sql`: a request of a key is counted in the row
of its minute, and let through if it is one of the first sixty of it.

## The model

* Any number of requests are under way, each somewhere in its transaction; a step is one statement. The upsert and the
  `DELETE` wait for a row that another transaction has written, and the `DELETE` goes row by row.
* The clock counts microseconds. A request reads it before it has a connection.
* `fail` is an exception, which lets the request through. A `DELETE` that fails (`pruneFails`) is passed over, but it has
  aborted the transaction, and the `COMMIT` is a rollback. `die` is the end of the process, with no answer.
* `counted` is a ghost: the requests that a commit has counted, in order.

## What is proved

* `countOf_upsert`, `countOf_delete`: what a write does to the counts.
-/

namespace JLMirror.Access

open JLMirror.Foundations JLMirror.Monitoring

/-! ### The table -/

/-- `_RATE_LIMIT_RPM` -/
def _RATE_LIMIT_RPM : ℕ := 60

/-- A minute. -/
def minute : Timestamp := 60000000

/-- `g1.api_rate_limit` -/
structure RateCount where
  key_digest : String
  window_min : ℤ
  req_count : ℕ

/-- The row of a key and a window. -/
def RateCount.is (k : String × ℤ) (r : RateCount) : Bool := r.key_digest = k.1 ∧ r.window_min = k.2

def RateCount.increment (r : RateCount) : RateCount := { r with req_count := r.req_count + 1 }

/-- `req_count`, or zero. -/
def countOf (rows : List RateCount) (k : String × ℤ) : ℕ := (rows.find? (·.is k)).elim 0 (·.req_count)

/-- A write of a transaction, on one row. -/
inductive RateWrite where
  | count (k : String × ℤ)
  | delete (k : String × ℤ)

def RateWrite.row : RateWrite → String × ℤ
  | .count k => k
  | .delete k => k

def RateWrite.apply (x : RateWrite) (rows : List RateCount) : List RateCount :=
  match x with
  | .count k => if rows.any (·.is k) then updateWhere (·.is k) (·.increment) rows else rows ++ [⟨k.1, k.2, 1⟩]
  | .delete k => rows.filter fun r => !r.is k

/-! ### The requests -/

/-- A request with the time that it has read. -/
structure RateRequest where
  key_digest : String
  time : Timestamp
  deriving DecidableEq

/-- `int(time.time() // 60)` -/
def RateRequest.window (r : RateRequest) : ℤ := r.time / minute

/-- The row that it is counted in. -/
def RateRequest.row (r : RateRequest) : String × ℤ := (r.key_digest, r.window)

/-- The next statement of a request. -/
inductive RatePoint where
  | idle
  | upsert (r : RateRequest)
  /-- It has been counted. -/
  | select (r : RateRequest) (count : ℕ)
  /-- The `DELETE`, with the rows it has deleted and those that are left. -/
  | prune (r : RateRequest) (count : ℕ) (deleted rest : List (String × ℤ))
  | commit (r : RateRequest) (count : ℕ) (deleted : List (String × ℤ))
  /-- The `DELETE` has failed, and its transaction with it. -/
  | aborted (r : RateRequest) (count : ℕ)

/-- An answer of `_rate_ok`. -/
structure RateAnswer where
  request : RateRequest
  ok : Bool

structure RateSystem where
  core : Sessions (List RateCount) RateWrite RatePoint
  /-- `time.time()` -/
  clock : Timestamp
  counted : List RateRequest
  answers : List RateAnswer

namespace RateSystem

def init : RateSystem := ⟨Sessions.init .idle [], 0, [], []⟩

variable (s : RateSystem) (w : ℕ)

/-- What is committed. -/
def rows : List RateCount := s.core.tx.db

/-- What a session sees. -/
def view : List RateCount := s.core.view RateWrite.apply w

def goto (p : RatePoint) : RateSystem := { s with core := s.core.goto w p }

def write (x : RateWrite) (p : RatePoint) : RateSystem := { s with core := s.core.write RateWrite.row w x p }

/-- The transaction is rolled back, and the request answered. -/
def answer (r : RateRequest) (ok : Bool) : RateSystem :=
  { s with core := s.core.rollback .idle w, answers := s.answers ++ [⟨r, ok⟩] }

/-- `COMMIT` -/
def commit (r : RateRequest) (count : ℕ) : RateSystem :=
  { s with
    core := s.core.commit RateWrite.apply .idle w
    counted := s.counted ++ [r]
    answers := s.answers ++ [⟨r, count ≤ _RATE_LIMIT_RPM⟩] }

/-- The next statement of a request. -/
def next : RateSystem :=
  match s.core.pc w with
  | .idle => s
  | .upsert r => s.write w (.count r.row) (.select r (countOf (s.view w) r.row + 1))
  | .select r count =>
    let old := (s.view w).filter fun x => x.window_min < r.window - 5
    s.goto w (.prune r count [] (old.map fun x => (x.key_digest, x.window_min)))
  | .prune r count deleted [] => s.goto w (.commit r count deleted)
  | .prune r count deleted (k :: rest) =>
    if (s.view w).any (·.is k) then s.write w (.delete k) (.prune r count (deleted ++ [k]) rest)
    else s.goto w (.prune r count deleted rest)
  | .commit r count _ => s.commit w r count
  | .aborted r count => s.answer w r (count ≤ _RATE_LIMIT_RPM)

/-- The request of a session. -/
def request : Option RateRequest :=
  match s.core.pc w with
  | .idle => none
  | .upsert r | .select r _ | .prune r _ _ _ | .commit r _ _ | .aborted r _ => some r

end RateSystem

/-- A step of the system. -/
inductive RateAct where
  /-- A request of a key comes in, in a session that is free. -/
  | request (w : ℕ) (key_digest : String)
  | next (w : ℕ)
  | pruneFails (w : ℕ)
  | fail (w : ℕ)
  | die (w : ℕ)
  | advance (t : Timestamp)

def RateSystem.step (s : RateSystem) : RateAct → RateSystem
  | .request w key_digest =>
    match s.core.pc w with
    | .idle => s.goto w (.upsert ⟨key_digest, s.clock⟩)
    | _ => s
  | .next w => s.next w
  | .pruneFails w =>
    match s.core.pc w with
    | .select r count | .prune r count _ _ => { s with core := (s.core.rollback .idle w).goto w (.aborted r count) }
    | _ => s
  | .fail w =>
    match s.request w with
    | some r => s.answer w r true
    | none => s
  | .die w => { s with core := s.core.rollback .idle w }
  | .advance t => { s with clock := max s.clock t }

/-- The system after a run. -/
def RateSystem.exec (run : List RateAct) : RateSystem := run.foldl RateSystem.step .init

/-! ### Counts -/

variable {rows : List RateCount} {k k' : String × ℤ}

theorem RateCount.is_iff {r : RateCount} : r.is k = true ↔ (r.key_digest, r.window_min) = k := by
  rw [RateCount.is, decide_eq_true_eq, Prod.ext_iff]

theorem countOf_upsert : countOf ((RateWrite.count k').apply rows) k = countOf rows k + if k' = k then 1 else 0 := by
  rw [RateWrite.apply]
  by_cases hany : rows.any (·.is k') = true
  · rw [if_pos hany, countOf, find?_updateWhere fun r _ => by rfl]
    cases hfind : rows.find? (·.is k) with
    | none =>
      have hne : k' ≠ k := by
        rintro rfl
        obtain ⟨r, hr, his⟩ := List.any_eq_true.1 hany
        exact List.find?_eq_none.1 hfind r hr his
      simp [countOf, hfind, hne]
    | some r =>
      have hrow : (r.key_digest, r.window_min) = k := RateCount.is_iff.1 (List.find?_some hfind)
      by_cases hk : k' = k
      · simp [countOf, hfind, RateCount.is_iff.2 hrow, hk, RateCount.increment]
      · have his : ¬r.is k' = true := fun his => hk ((RateCount.is_iff.1 his).symm.trans hrow)
        simp [countOf, hfind, his, hk]
  · rw [if_neg hany, countOf, countOf, List.find?_append]
    by_cases hk : k' = k
    · subst hk
      have hnone : rows.find? (·.is k') = none := by
        rw [List.find?_eq_none]
        exact fun r hr his => hany (List.any_eq_true.2 ⟨r, hr, his⟩)
      rw [hnone]
      simp [RateCount.is]
    · have his : ¬(⟨k'.1, k'.2, 1⟩ : RateCount).is k = true := fun his => hk (RateCount.is_iff.1 his)
      rw [List.find?_singleton, if_neg his, if_neg hk, Option.or_none]
      rfl

theorem countOf_delete : countOf ((RateWrite.delete k').apply rows) k = if k' = k then 0 else countOf rows k := by
  rw [RateWrite.apply, countOf, List.find?_filter]
  by_cases hk : k' = k
  · subst hk
    rw [if_pos rfl, List.find?_eq_none.2 fun r _ => by simp]
    rfl
  · rw [if_neg hk, countOf]
    congr 2
    funext r
    cases his : r.is k with
    | false => simp
    | true =>
      have hother : ¬r.is k' = true := fun h => hk ((RateCount.is_iff.1 h).symm.trans (RateCount.is_iff.1 his))
      simp [hother]

end JLMirror.Access
