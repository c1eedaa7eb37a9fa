import JLMirror.Access.TenantBinding
import JLMirror.Foundations.TimedCache
import Mathlib.Data.Nat.Cast.Order.Ring

/-!
# Revocation within the lifetime of the cache

`_check_membership_cached` of `bff/main.py`: the shell checks the membership of a session at each request that it
forwards, through a cache whose entries live for ten seconds. "The cache reduces DB pressure while bounding the
revocation grace period".

## The model

The reader of `Foundations.TimedCache`, over the tables of authority: a check reads the clock and the cache, then, in
steps of their own, queries the tables and stores what it has found. Any number of checks are under way, of any keys, and
the tables change in any way between the steps.

## What is proved

* `check_membership_cached_eq`: the check of `Access.TenantBinding` is one that nobody comes in between of.
* **Key result** (`revocation_within_ttl`): a check that begins at `t` passes only if the membership held at some moment
  later than `t` less the lifetime, and passes if it held at all of these.

## Honest scope

Time is exact: the code adds the lifetime to a float. A cache is that of one process, and a check that fails with an
exception is neither passed nor refused.
-/

namespace JLMirror.Access

open Foundations

/-- `len(_membership_cache) > 2000` -/
def MEMBERSHIP_CACHE_LIMIT : ℕ := 2000

/-- The checks of a shell, over the tables of authority. -/
abbrev MembershipChecks (τ : Type*) := TimedCache τ (String × String) AccessDb (Option String)

/-- A principal and a tenant. -/
def membershipOf (db : AccessDb) (key : String × String) : Option String := check_membership key.1 key.2 db

/-- The checks of a run, from a shell that has just started. -/
def MembershipChecks.exec {τ : Type*} [Semiring τ] [LinearOrder τ] (clock : τ) (db : AccessDb)
    (run : List (CacheAct τ (String × String) AccessDb)) : MembershipChecks τ :=
  TimedCache.exec membershipOf (MEMBERSHIP_CACHE_TTL : τ) MEMBERSHIP_CACHE_LIMIT (.init clock db) run

/-! ### The check in one step -/

/-- `check_membership_cached` is a check that nobody comes in between of. -/
theorem check_membership_cached_eq {s : Bff} {c : MembershipChecks ℕ} {w : ℕ} {principal_id tenant_id : String}
    (hidle : c.readers w = .idle) (hsource : c.source = s.db) (hclock : c.clock = s.monotonic)
    (hcache : c.cache = s.cache) :
    let c' := TimedCache.exec membershipOf MEMBERSHIP_CACHE_TTL MEMBERSHIP_CACHE_LIMIT c
      [.start w (principal_id, tenant_id), .query w, .fill w]
    c'.answers = c.answers ++
        [⟨(principal_id, tenant_id), c.clock, (check_membership_cached principal_id tenant_id s).1, c.moments⟩] ∧
      c'.cache = (check_membership_cached principal_id tenant_id s).2.cache := by
  intro c'
  have halone : c' = _ := TimedCache.read_alone hidle
  have hlive : TimedCache.live c.clock (principal_id, tenant_id) c.cache =
      liveAnswer s.monotonic (principal_id, tenant_id) s.cache := by
    rw [hclock, hcache]
    rfl
  rw [halone, hlive, check_membership_cached]
  cases liveAnswer s.monotonic (principal_id, tenant_id) s.cache with
  | some result => exact ⟨rfl, hcache⟩
  | none =>
    constructor
    · simp [TimedCache.answer, membershipOf, hsource]
    · simp only [TimedCache.answer, TimedCache.store, hclock, hcache, hsource]
      rfl

/-! ### The claim -/

/-- The check passed. -/
def Passed {τ : Type*} (a : CacheAnswer τ (String × String) AccessDb (Option String)) : Prop := a.result.isSome = true

/-- The moments until the answer that are later than the start of the check less the lifetime. -/
def Recent {τ : Type*} [Semiring τ] [LinearOrder τ] (a : CacheAnswer τ (String × String) AccessDb (Option String))
    (m : τ × AccessDb) : Prop :=
  m ∈ a.moments ∧ a.start < m.1 + (MEMBERSHIP_CACHE_TTL : τ)

/-- Every check passes only if the membership held at some recent moment, and passes if it held at all of them. -/
def RevocationLaw {τ : Type*} [Semiring τ] [LinearOrder τ] (s : MembershipChecks τ) : Prop :=
  ∀ a ∈ s.answers,
    (Passed a → ∃ m, Recent a m ∧ (check_membership a.key.1 a.key.2 m.2).isSome = true) ∧
    ((∀ m, Recent a m → (check_membership a.key.1 a.key.2 m.2).isSome = true) → Passed a)

/-- For every interleaving of checks, changes of the tables, fills and prunes, a check passes only if the membership held
at a moment later than its start less the lifetime, and is not refused if it held at all of these. -/
theorem revocation_within_ttl {τ : Type*} [Semiring τ] [LinearOrder τ] [IsStrictOrderedRing τ] (clock : τ) (db : AccessDb)
    (run : List (CacheAct τ (String × String) AccessDb)) : RevocationLaw (MembershipChecks.exec clock db run) := by
  have hpos : (0 : τ) < (MEMBERSHIP_CACHE_TTL : τ) := Nat.cast_pos.2 (by decide)
  intro a ha
  obtain ⟨m, hm, hstart, hresult⟩ := TimedCache.answered_recently hpos clock db run ha
  have hrole : check_membership a.key.1 a.key.2 m.2 = a.result := hresult
  constructor
  · intro hpassed
    rw [Passed, ← hrole] at hpassed
    exact ⟨m, ⟨hm, hstart⟩, hpassed⟩
  · intro hheld
    have hsome := hheld m ⟨hm, hstart⟩
    rwa [Passed, ← hrole]

/-- A membership and its tenant. -/
def grantedDb : AccessDb := ⟨[], [⟨"t", "", true⟩], [⟨"t", "p", "viewer", true⟩], [], []⟩

/-- The membership is revoked while a check has it in its hands; the next check finds what that one stores, the last one
no more. -/
def revokedRun : List (CacheAct ℕ (String × String) AccessDb) :=
  [.start 0 ("p", "t"), .query 0, .change { grantedDb with memberships := [] }, .fill 0, .advance 9,
    .start 0 ("p", "t"), .advance 10, .start 0 ("p", "t"), .query 0, .fill 0]

theorem revokedRun_law : ((MembershipChecks.exec 0 grantedDb revokedRun).answers.map fun a => (a.start, a.result)) =
      [(0, some "viewer"), (9, some "viewer"), (10, none)] ∧
    RevocationLaw (MembershipChecks.exec 0 grantedDb revokedRun) :=
  ⟨by decide, revocation_within_ttl 0 grantedDb revokedRun⟩

end JLMirror.Access
