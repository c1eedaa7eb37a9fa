import Mathlib.Data.List.Sort

/-!
# Keyset pagination

A list in order is read page by page. Each page is asked for with the last row of the one before it, and the
query selects the rows that are strictly behind that row, sorts them and cuts them off. The order is that of
the query, over keys that may be compared in any direction.

## What is proved

* `insertionSort_behind`: what is strictly behind a row, in order, is the rest of the list, where no two rows have one key.
* **Key result** (`walk_complete`): where each page is the first part of what is behind its cursor, and its next
  cursor that of its last row, the pages make up the list, and they come to an end.
-/

namespace JLMirror.Foundations

variable {α β κ : Type*}

section Order

variable {le : α → α → Prop} [DecidableRel le] [Std.Total le] [IsTrans α le] {l pre post : List α} {a : α}

theorem insertionSort_filter (hantisymm : ∀ a ∈ l, ∀ b ∈ l, le a b → le b a → a = b) (p : α → Bool) :
    (l.filter p).insertionSort le = (l.insertionSort le).filter p := by
  refine List.Perm.eq_of_pairwise (fun a b ha hb => ?_) (List.pairwise_insertionSort le _)
    ((List.pairwise_insertionSort le l).filter p)
    ((List.perm_insertionSort le _).trans ((List.perm_insertionSort le l).filter p).symm)
  have ha := (List.mem_filter.1 ((List.mem_insertionSort le).1 ha)).1
  have hb := (List.mem_insertionSort le).1 (List.mem_filter.1 hb).1
  exact hantisymm a ha b hb

/-- Rows that are in order, where each one is strictly behind those before it. -/
theorem pairwise_insertionSort_strict (hnodup : l.Nodup) (hantisymm : ∀ a ∈ l, ∀ b ∈ l, le a b → le b a → a = b) :
    (l.insertionSort le).Pairwise fun a b => le a b ∧ ¬le b a := by
  have hperm := List.perm_insertionSort le l
  have hsorted : (l.insertionSort le).Pairwise fun a b => le a b ∧ a ≠ b :=
    (List.pairwise_insertionSort le l).and (hperm.symm.nodup hnodup)
  refine hsorted.imp_of_mem fun {a b} ha hb hab => ⟨hab.1, fun hba => hab.2 ?_⟩
  exact hantisymm a (hperm.subset ha) b (hperm.subset hb) hab.1 hba

/-- What is strictly behind a row, in order, is the rest of the list. -/
theorem insertionSort_behind (hnodup : l.Nodup) (hantisymm : ∀ a ∈ l, ∀ b ∈ l, le a b → le b a → a = b)
    (h : l.insertionSort le = pre ++ a :: post) : (l.filter fun b => !decide (le b a)).insertionSort le = post := by
  have hstrict := pairwise_insertionSort_strict hnodup hantisymm
  rw [h] at hstrict
  obtain ⟨-, hpost, hpre⟩ := List.pairwise_append.1 hstrict
  have hself : le a a := (Std.Total.total a a).elim id id
  have hbefore : pre.filter (fun b => !decide (le b a)) = [] :=
    List.filter_eq_nil_iff.2 fun b hb => by simp [(hpre b hb a List.mem_cons_self).1]
  have hafter : post.filter (fun b => !decide (le b a)) = post :=
    List.filter_eq_self.2 fun b hb => by simp [((List.pairwise_cons.1 hpost).1 b hb).2]
  rw [insertionSort_filter hantisymm, h, List.filter_append, hbefore, List.nil_append,
    List.filter_cons_of_neg (by simp [hself]), hafter]

end Order

/-! ### Pages -/

/-- The pages from a cursor on, one after the other; `none` where one fails, or where they do not end in time. -/
def walk (next : Option κ → Option (List β × Option κ)) : ℕ → Option κ → Option (List β)
  | 0, _ => none
  | n + 1, cursor =>
    match next cursor with
    | none => none
    | some (items, none) => some items
    | some (items, some c) => (walk next n (some c)).map (items ++ ·)

/-- The cursor is that of the last row of `pre`, and there is none where nothing has been read. -/
inductive CursorAt (key : α → κ) : List α → Option κ → Prop
  | start : CursorAt key [] none
  | behind (pre : List α) (a : α) : CursorAt key (pre ++ [a]) (some (key a))

/-- Each page is the first part of what is behind its cursor, with the cursor of its last row where there is more. -/
def PagesOf (key : α → κ) (item : α → β) (limit : ℕ) (rows : List α)
    (next : Option κ → Option (List β × Option κ)) : Prop :=
  ∀ pre post cursor, rows = pre ++ post → CursorAt key pre cursor →
    next cursor = some ((post.take limit).map item,
      if limit < post.length then (post.take limit).getLast?.map key else none)

/-- **Key result**: the pages make up the list, and come to an end. -/
theorem walk_complete {key : α → κ} {item : α → β} {limit : ℕ} {rows : List α}
    {next : Option κ → Option (List β × Option κ)} (hlimit : 0 < limit) (h : PagesOf key item limit rows next) :
    ∀ n pre post cursor, rows = pre ++ post → CursorAt key pre cursor → post.length < n →
      walk next n cursor = some (post.map item) := by
  intro n
  induction n with
  | zero => exact fun _ _ _ _ _ hlt => absurd hlt (Nat.not_lt_zero _)
  | succ n ih =>
    intro pre post cursor hrows hcursor hlt
    rw [walk, h pre post cursor hrows hcursor]
    by_cases hmore : limit < post.length
    · have hne : post.take limit ≠ [] := List.ne_nil_of_length_pos (by rw [List.length_take]; omega)
      obtain ⟨init, a, hlast⟩ : ∃ init a, post.take limit = init ++ [a] :=
        ⟨_, _, (List.dropLast_append_getLast hne).symm⟩
      have hsplit : rows = (pre ++ init ++ [a]) ++ post.drop limit := by
        rw [List.append_assoc pre, ← hlast, List.append_assoc, List.take_append_drop]
        exact hrows
      have hrest := ih (pre ++ init ++ [a]) (post.drop limit) (some (key a)) hsplit (.behind _ a)
        (by rw [List.length_drop]; omega)
      rw [if_pos hmore, hlast, List.getLast?_append, List.getLast?_singleton]
      change (walk next n (some (key a))).map _ = _
      rw [hrest, Option.map_some, ← hlast, ← List.map_append, List.take_append_drop]
    · rw [if_neg hmore, List.take_of_length_le (by omega)]

end JLMirror.Foundations
