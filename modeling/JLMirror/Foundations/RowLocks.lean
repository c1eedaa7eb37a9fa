import JLMirror.Foundations.WriteLog
import Mathlib.Data.List.Nodup

/-!
# Row locks and unique keys

A session at READ COMMITTED that writes a row locks it until its transaction ends, and a statement of
another session that would write the row waits. `row` names the row that a write is on, over an
arbitrary type; `inserted` is the unique key that it inserts, if it inserts a row.

## What is proved

* `Exclusive` — the uncommitted writes on a row are of one session: a write of a session that has
  the row keeps it so, and so do a commit and a rollback.
* `Unique` — the committed keys and the uncommitted ones are distinct: a session that does not see a
  key, and has the row that it would insert, keeps them so; a commit and a rollback do.
-/

namespace JLMirror.Foundations.WriteLog

variable {σ ω ρ κ : Type*} {apply : ω → σ → σ} {s : WriteLog σ ω} {w v : ℕ} {x : ω}

/-! ### The writes of one session -/

/-- The writes of a session, the oldest first. -/
def writes (s : WriteLog σ ω) (w : ℕ) : List ω := (s.log.filter fun x => x.1 = w).map (·.2)

theorem mem_writes : x ∈ s.writes w ↔ (w, x) ∈ s.log := by
  simp [writes]

theorem view_eq (apply : ω → σ → σ) (s : WriteLog σ ω) (w : ℕ) :
    s.view apply w = (s.writes w).foldl (fun db x => apply x db) s.db := by
  rw [writes, List.foldl_map]
  rfl

/-- What holds of what is committed, and is kept by the writes of a session, holds of what it sees. -/
theorem view_induction {P : σ → Prop} (hdb : P s.db) (h : ∀ x, (w, x) ∈ s.log → ∀ db, P db → P (apply x db)) :
    P (s.view apply w) := by
  rw [view_eq]
  exact List.foldlRecOn _ _ hdb fun db hP x hx => h x (mem_writes.1 hx) db hP

@[simp] theorem writes_write : (s.write w x).writes w = s.writes w ++ [x] := by
  simp [writes, write]

theorem writes_write_of_ne (h : v ≠ w) : (s.write w x).writes v = s.writes v := by
  simp [writes, write, h.symm]

@[simp] theorem writes_commit : (s.commit apply w).writes w = [] := by
  simp [writes, commit]

theorem filter_of_ne (h : v ≠ w) (log : List (ℕ × ω)) :
    (log.filter fun x => x.1 ≠ w).filter (fun x => x.1 = v) = log.filter fun x => x.1 = v := by
  rw [List.filter_filter]
  refine List.filter_congr fun x _ => ?_
  by_cases hx : x.1 = v
  · simp [hx, h]
  · simp [hx]

theorem writes_commit_of_ne (h : v ≠ w) : (s.commit apply w).writes v = s.writes v :=
  congrArg (List.map Prod.snd) (filter_of_ne h s.log)

@[simp] theorem writes_rollback : (s.rollback w).writes w = [] := by
  simp [writes, rollback]

theorem writes_rollback_of_ne (h : v ≠ w) : (s.rollback w).writes v = s.writes v :=
  congrArg (List.map Prod.snd) (filter_of_ne h s.log)

/-! ### Locks -/

/-- Another session has written the row. -/
def locked [DecidableEq ρ] (row : ω → ρ) (s : WriteLog σ ω) (w : ℕ) (r : ρ) : Bool :=
  s.log.any fun x => x.1 ≠ w ∧ row x.2 = r

/-- The writes on a row are of one session. -/
def Exclusive (row : ω → ρ) (s : WriteLog σ ω) : Prop :=
  ∀ x ∈ s.log, ∀ y ∈ s.log, row x.2 = row y.2 → x.1 = y.1

variable {row : ω → ρ}

theorem locked_eq_false [DecidableEq ρ] {r : ρ} : s.locked row w r = false ↔ ∀ x ∈ s.log, row x.2 = r → x.1 = w := by
  simp only [locked, List.any_eq_false, decide_eq_true_eq, not_and, ne_eq]
  exact forall₂_congr fun x _ => ⟨fun h hr => by_contra fun hne => h hne hr, fun h hne hr => hne (h hr)⟩

theorem Exclusive.write [DecidableEq ρ] (h : s.Exclusive row) (hfree : s.locked row w (row x) = false) :
    (s.write w x).Exclusive row := by
  intro y hy z hz hrow
  have hfree := locked_eq_false.1 hfree
  rcases mem_write hy with hy | rfl <;> rcases mem_write hz with hz | rfl
  · exact h y hy z hz hrow
  · exact hfree y hy hrow
  · exact (hfree z hz hrow.symm).symm
  · rfl

theorem Exclusive.commit (h : s.Exclusive row) : (s.commit apply w).Exclusive row :=
  fun x hx y hy => h x (mem_commit hx).1 y (mem_commit hy).1

theorem Exclusive.rollback (h : s.Exclusive row) : (s.rollback w).Exclusive row :=
  fun x hx y hy => h x (mem_rollback hx).1 y (mem_rollback hy).1

/-! ### Unique keys -/

/-- The keys that are committed, or inserted by an open transaction, are distinct. -/
def Unique (keys : σ → List κ) (inserted : ω → Option κ) (s : WriteLog σ ω) : Prop :=
  (keys s.db ++ s.log.filterMap fun x => inserted x.2).Nodup

variable {keys : σ → List κ} {inserted : ω → Option κ}

/-- A session sees the keys that are committed and those that it has inserted. -/
theorem keys_view (happly : ∀ x db, keys (apply x db) = keys db ++ (inserted x).toList) (s : WriteLog σ ω) (w : ℕ) :
    keys (s.view apply w) = keys s.db ++ (s.writes w).filterMap inserted := by
  rw [view_eq]
  generalize s.db = db
  induction s.writes w generalizing db with
  | nil => exact (List.append_nil _).symm
  | cons x xs ih =>
    rw [List.foldl_cons, ih, happly, List.append_assoc]
    cases hx : inserted x <;> simp [hx]

theorem Unique.committed (h : s.Unique keys inserted) : (keys s.db).Nodup := (List.nodup_append.1 h).1

theorem Unique.not_mem (h : s.Unique keys inserted) {k : κ} (hx : (w, x) ∈ s.log) (hk : inserted x = some k) :
    k ∉ keys s.db := fun hmem =>
  List.disjoint_of_nodup_append h hmem (List.mem_filterMap.2 ⟨(w, x), hx, hk⟩)

/-- A session inserts a key that it does not see, and that no other one has inserted. -/
theorem Unique.write (happly : ∀ x db, keys (apply x db) = keys db ++ (inserted x).toList)
    (h : s.Unique keys inserted)
    (hnew : ∀ k, inserted x = some k → k ∉ keys (s.view apply w) ∧ ∀ y ∈ s.log, inserted y.2 = some k → y.1 = w) :
    (s.write w x).Unique keys inserted := by
  have hlog : ((s.write w x).log.filterMap fun x => inserted x.2) =
      (s.log.filterMap fun x => inserted x.2) ++ (inserted x).toList := by
    rw [WriteLog.write, List.filterMap_append]
    cases hx : inserted x <;> simp [hx]
  have hdb : (s.write w x).db = s.db := rfl
  rw [Unique, hdb, hlog, ← List.append_assoc]
  cases hx : inserted x with
  | none => rwa [Option.toList_none, List.append_nil]
  | some k =>
    obtain ⟨hview, hothers⟩ := hnew k hx
    rw [keys_view happly, List.mem_append, not_or] at hview
    refine List.Nodup.append h (List.nodup_singleton k) (List.disjoint_singleton.2 fun hk => ?_)
    rcases List.mem_append.1 hk with hk | hk
    · exact hview.1 hk
    · obtain ⟨y, hy, hyk⟩ := List.mem_filterMap.1 hk
      exact hview.2 (List.mem_filterMap.2 ⟨y.2, mem_writes.2 (hothers y hy hyk ▸ hy), hyk⟩)

theorem Unique.commit (happly : ∀ x db, keys (apply x db) = keys db ++ (inserted x).toList)
    (h : s.Unique keys inserted) : (s.commit apply w).Unique keys inserted := by
  have hdb : keys (s.commit apply w).db = keys s.db ++ (s.writes w).filterMap inserted := keys_view happly s w
  have hlog : (s.commit apply w).log = s.log.filter fun x => !decide (x.1 = w) := by
    simp [WriteLog.commit]
  have hperm := (List.filter_append_perm (fun x => decide (x.1 = w)) s.log).filterMap fun x => inserted x.2
  rw [List.filterMap_append] at hperm
  rw [Unique, hdb, hlog, List.append_assoc, writes, List.filterMap_map]
  exact (hperm.append_left (keys s.db)).nodup_iff.2 h

/-- A transaction elsewhere keeps the committed keys distinct, and takes none that is inserted. -/
theorem Unique.outside {db : σ} (h : s.Unique keys inserted) (hdb : (keys db).Nodup)
    (hfree : ∀ x ∈ s.log, ∀ k, inserted x.2 = some k → k ∉ keys db) : Unique keys inserted ⟨db, s.log⟩ := by
  refine List.nodup_append'.2 ⟨hdb, (List.nodup_append'.1 h).2.1, fun k hk hk' => ?_⟩
  obtain ⟨x, hx, hxk⟩ := List.mem_filterMap.1 hk'
  exact hfree x hx k hxk hk

theorem Unique.rollback (h : s.Unique keys inserted) : (s.rollback w).Unique keys inserted :=
  List.Nodup.sublist ((List.Sublist.refl _).append (List.filter_sublist.filterMap _)) h

end JLMirror.Foundations.WriteLog
