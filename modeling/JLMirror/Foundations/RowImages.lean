import Mathlib.Data.List.Basic

/-!
# Writes that update one row each

A table is a list of rows with a key, over arbitrary types of rows, keys and writes. A write that is on a key updates
the row of the key, and keeps the key; a write may also be on no row of the table.

## What is proved

* `foldl_map_on`: a table under several writes is that of the images of its rows.
* `mem_image`: if rows that are written are the same in two tables, a row of the second one under the writes is one of
  the first one under them, or one that is not written.
-/

namespace JLMirror.Foundations

/-- The writes on the rows of a table. -/
structure RowWrites (α κ ω : Type*) where
  key : α → κ
  target : ω → Option κ
  set : ω → α → α
  key_set : ∀ x a, key (set x a) = key a

namespace RowWrites

variable {α κ ω β : Type*} [DecidableEq κ] (R : RowWrites α κ ω)

/-- A row under a write. -/
def on (x : ω) (a : α) : α := if R.target x = some (R.key a) then R.set x a else a

/-- A row under several writes. -/
def image (ws : List ω) (a : α) : α := ws.foldl (fun a x => R.on x a) a

/-- One of the writes is on the row of a key. -/
def Written (ws : List ω) (k : κ) : Prop := ∃ x ∈ ws, R.target x = some k

variable {R} {ws : List ω} {a : α} {rows rows' : List α}

theorem on_kept {f : α → β} (hf : ∀ x a, f (R.set x a) = f a) (x : ω) (a : α) : f (R.on x a) = f a := by
  unfold on
  split_ifs
  · exact hf x a
  · rfl

theorem image_kept {f : α → β} (hf : ∀ x a, f (R.set x a) = f a) (ws : List ω) (a : α) : f (R.image ws a) = f a := by
  induction ws generalizing a with
  | nil => rfl
  | cons x ws ih => exact (ih (R.on x a)).trans (on_kept hf x a)

theorem key_image (ws : List ω) (a : α) : R.key (R.image ws a) = R.key a := image_kept R.key_set ws a

theorem keys_image (ws : List ω) (rows : List α) : (rows.map (R.image ws)).map R.key = rows.map R.key := by
  rw [List.map_map]
  exact List.map_congr_left fun a _ => key_image ws a

theorem on_of_ne {x : ω} (h : R.target x ≠ some (R.key a)) : R.on x a = a := if_neg h

theorem image_of_not (h : ¬R.Written ws (R.key a)) : R.image ws a = a := by
  induction ws with
  | nil => rfl
  | cons x ws ih =>
    have hx : R.on x a = a := on_of_ne fun htarget => h ⟨x, List.mem_cons_self, htarget⟩
    rw [image, List.foldl_cons, hx]
    exact ih fun ⟨y, hy, htarget⟩ => h ⟨y, List.mem_cons_of_mem x hy, htarget⟩

theorem foldl_map_on (ws : List ω) (rows : List α) :
    ws.foldl (fun rows x => rows.map (R.on x)) rows = rows.map (R.image ws) := by
  induction ws generalizing rows with
  | nil => exact (List.map_id rows).symm
  | cons x ws ih =>
    rw [List.foldl_cons, ih, List.map_map]
    rfl

/-- The rows under the writes, where another table has the same rows on their keys. -/
theorem mem_image (h : ∀ a ∈ rows', R.Written ws (R.key a) → a ∈ rows) {n : α} (hn : n ∈ rows'.map (R.image ws)) :
    (n ∈ rows.map (R.image ws) ∧ R.Written ws (R.key n)) ∨ n ∈ rows' ∧ ¬R.Written ws (R.key n) := by
  obtain ⟨a, ha, rfl⟩ := List.mem_map.1 hn
  rw [key_image]
  by_cases hwritten : R.Written ws (R.key a)
  · exact Or.inl ⟨List.mem_map_of_mem (h a ha hwritten), hwritten⟩
  · rw [image_of_not hwritten]
    exact Or.inr ⟨ha, hwritten⟩

end RowWrites

end JLMirror.Foundations
