import Mathlib.Data.List.Basic
import Mathlib.Order.Lattice

/-!
# Pages behind a cursor

`SELECT … WHERE key > cursor ORDER BY key LIMIT size` reads a page of a table. The next page is behind the
last key of this one, and the pages that are read so make up what was behind the first cursor
(`page_append_after`), as long as no two rows have one key.
-/

namespace JLMirror.Foundations

variable {α κ : Type*} [LinearOrder κ] (key : α → κ)

/-- The rows behind a cursor. -/
def after (rows : List α) (cursor : κ) : List α := rows.filter fun a => cursor < key a

/-- The first of them. -/
def page (size : ℕ) (rows : List α) (cursor : κ) : List α := (after key rows cursor).take size

/-- Rows in the order of their keys, each key once. -/
abbrev Ordered (rows : List α) : Prop := rows.Pairwise fun a b => key a < key b

variable {key} {rows : List α} {size : ℕ} {cursor : κ} {a : α}

theorem mem_after : a ∈ after key rows cursor ↔ a ∈ rows ∧ cursor < key a := by simp [after]

theorem Ordered.le_last (h : Ordered key rows) (ha : a ∈ rows.getLast?) : ∀ b ∈ rows, key b ≤ key a := by
  obtain ⟨init, rfl⟩ := List.getLast?_eq_some_iff.1 ha
  intro b hb
  rcases List.mem_append.1 hb with hb | hb
  · exact ((List.pairwise_append.1 h).2.2 b hb a (List.mem_singleton_self a)).le
  · rw [List.mem_singleton.1 hb]

theorem Ordered.after (h : Ordered key rows) (cursor : κ) : Ordered key (after key rows cursor) := h.filter _

theorem Ordered.page (h : Ordered key rows) (size : ℕ) (cursor : κ) : Ordered key (page key size rows cursor) :=
  (h.after cursor).sublist (List.take_sublist _ _)

theorem lt_of_mem_page (h : a ∈ page key size rows cursor) : cursor < key a :=
  (mem_after.1 (List.mem_of_mem_take h)).2

/-- A page, and what is behind its last row, are what was behind the cursor. -/
theorem page_append_after (h : Ordered key rows) (ha : a ∈ (page key size rows cursor).getLast?) :
    page key size rows cursor ++ after key rows (key a) = after key rows cursor := by
  have hmem : a ∈ page key size rows cursor := List.mem_of_getLast? ha
  have hsplit := List.take_append_drop size (after key rows cursor)
  have hafter : after key rows (key a) = after key (after key rows cursor) (key a) := by
    rw [after, after, after, List.filter_filter]
    refine List.filter_congr fun b _ => ?_
    rw [Bool.eq_iff_iff]
    simp only [decide_eq_true_eq, Bool.and_eq_true, iff_self_and]
    exact fun hlt => (lt_of_mem_page hmem).trans hlt
  have hfirst : after key (page key size rows cursor) (key a) = [] :=
    List.filter_eq_nil_iff.2 fun b hb => by
      rw [decide_eq_true_eq, not_lt]
      exact (h.page size cursor).le_last ha b hb
  have hrest : after key ((after key rows cursor).drop size) (key a) = (after key rows cursor).drop size :=
    List.filter_eq_self.2 fun b hb => decide_eq_true <| by
      have hpair := h.after cursor
      rw [← hsplit] at hpair
      exact (List.pairwise_append.1 hpair).2.2 a hmem b hb
  calc page key size rows cursor ++ after key rows (key a)
      = page key size rows cursor ++ after key (page key size rows cursor ++ (after key rows cursor).drop size) (key a) := by
        rw [hafter, page, hsplit]
    _ = page key size rows cursor ++ (after key rows cursor).drop size := by
        rw [after, List.filter_append]
        exact congrArg _ (by rw [show List.filter _ (page key size rows cursor) = [] from hfirst,
          show List.filter _ ((after key rows cursor).drop size) = _ from hrest, List.nil_append])
    _ = after key rows cursor := hsplit

theorem page_of_short (h : (page key size rows cursor).length < size) :
    page key size rows cursor = after key rows cursor := by
  refine List.take_of_length_le ?_
  rw [page, List.length_take] at h
  omega

theorem page_of_last (h : Ordered key rows) (ha : a ∈ (page key size rows cursor).getLast?)
    (hnone : ∀ b ∈ rows, ¬key a < key b) : page key size rows cursor = after key rows cursor := by
  have hnil : after key rows (key a) = [] := List.filter_eq_nil_iff.2 fun b hb => by simpa using hnone b hb
  rw [← page_append_after h ha, hnil, List.append_nil]

theorem foldl_max_le {l : List κ} {b m : κ} (hle : ∀ x ∈ l, x ≤ m) (hb : b ≤ m) : l.foldl max b ≤ m := by
  induction l generalizing b with
  | nil => exact hb
  | cons x l ih => exact ih (fun y hy => hle y (List.mem_cons_of_mem x hy)) (max_le hb (hle x List.mem_cons_self))

theorem foldl_max_last {l : List κ} {b m : κ} (hm : m ∈ l.getLast?) (hle : ∀ x ∈ l, x ≤ m) (hb : b ≤ m) :
    l.foldl max b = m := by
  obtain ⟨init, rfl⟩ := List.getLast?_eq_some_iff.1 hm
  rw [List.foldl_append]
  exact max_eq_right (foldl_max_le (fun x hx => hle x (List.mem_append_left _ hx)) hb)

end JLMirror.Foundations
