import Mathlib.Algebra.Order.Ring.Int
import Mathlib.Data.Set.Subsingleton

/-!
# Intervals that leave no gap

Closed intervals of integers, given by their ends, over an arbitrary set of them. They leave no gap if every
integer between two that are covered is covered.

## What is proved

* `gapless_iff`: what lies between a first end and a last end is covered.
* `gapless_insert`: under one more interval they leave no gap exactly if it begins at the latest right after what is
  covered, and ends at the earliest right before it.
-/

namespace JLMirror.Foundations

/-- The integers in one of the intervals. -/
def covered (W : Set (ℤ × ℤ)) : Set ℤ := {t | ∃ o ∈ W, o.1 ≤ t ∧ t ≤ o.2}

/-- The intervals leave no gap. -/
def Gapless (W : Set (ℤ × ℤ)) : Prop := ∀ a ∈ covered W, ∀ b ∈ covered W, ∀ t, a ≤ t → t ≤ b → t ∈ covered W

/-- The interval touches what is covered, from both sides, or nothing is covered. -/
def Joins (W : Set (ℤ × ℤ)) (x : ℤ × ℤ) : Prop := W.Nonempty → (∃ v ∈ W, x.1 ≤ v.2 + 1) ∧ ∃ u ∈ W, u.1 ≤ x.2 + 1

variable {W : Set (ℤ × ℤ)} {x : ℤ × ℤ}

theorem gapless_iff (hW : ∀ o ∈ W, o.1 ≤ o.2) :
    Gapless W ↔ ∀ t, (∃ u ∈ W, u.1 ≤ t) → (∃ v ∈ W, t ≤ v.2) → ∃ o ∈ W, o.1 ≤ t ∧ t ≤ o.2 := by
  constructor
  · rintro h t ⟨u, hu, hut⟩ ⟨v, hv, htv⟩
    exact h u.1 ⟨u, hu, le_rfl, hW u hu⟩ v.2 ⟨v, hv, hW v hv, le_rfl⟩ t hut htv
  · rintro h
    rintro a ⟨u, hu, hua, -⟩ b ⟨v, hv, -, hbv⟩ t hat htb
    exact h t ⟨u, hu, hua.trans hat⟩ ⟨v, hv, htb.trans hbv⟩

theorem joins_of_gapless (hW : ∀ o ∈ W, o.1 ≤ o.2) (hx : x.1 ≤ x.2) (h : Gapless (insert x W)) : Joins W x := by
  rintro ⟨u, hu⟩
  have hall : ∀ o ∈ insert x W, o.1 ≤ o.2 := Set.forall_mem_insert.2 ⟨hx, hW⟩
  have h := (gapless_iff hall).1 h
  have hu12 := hW u hu
  constructor
  · by_contra hfar
    simp only [not_exists, not_and, not_le] at hfar
    -- The integer right before the interval lies behind every other one.
    obtain ⟨o, ho, hot, hto⟩ := h (x.1 - 1) ⟨u, Or.inr hu, by have := hfar u hu; omega⟩ ⟨x, Or.inl rfl, by omega⟩
    rcases ho with rfl | ho
    · omega
    · have := hfar o ho
      omega
  · by_contra hfar
    simp only [not_exists, not_and, not_le] at hfar
    obtain ⟨o, ho, hot, hto⟩ := h (x.2 + 1) ⟨x, Or.inl rfl, by omega⟩ ⟨u, Or.inr hu, by have := hfar u hu; omega⟩
    rcases ho with rfl | ho
    · omega
    · have := hfar o ho
      omega

/-- One more interval. -/
theorem gapless_insert (hW : ∀ o ∈ W, o.1 ≤ o.2) (hx : x.1 ≤ x.2) (h : Gapless W) :
    Gapless (insert x W) ↔ Joins W x := by
  have hall : ∀ o ∈ insert x W, o.1 ≤ o.2 := Set.forall_mem_insert.2 ⟨hx, hW⟩
  refine ⟨joins_of_gapless hW hx, fun hjoins => (gapless_iff hall).2 ?_⟩
  have h := (gapless_iff hW).1 h
  rintro t ⟨u, hu, hut⟩ ⟨v, hv, htv⟩
  by_cases hinside : x.1 ≤ t ∧ t ≤ x.2
  · exact ⟨x, Or.inl rfl, hinside⟩
  -- Outside of the new interval, the integer lies between two of the others.
  suffices hbetween : (∃ u ∈ W, u.1 ≤ t) ∧ ∃ v ∈ W, t ≤ v.2 by
    obtain ⟨o, ho, hot⟩ := h t hbetween.1 hbetween.2
    exact ⟨o, Or.inr ho, hot⟩
  rcases hu with rfl | hu <;> rcases hv with rfl | hv
  · exact absurd ⟨hut, htv⟩ hinside
  · obtain ⟨-, o, ho, hox⟩ := hjoins ⟨v, hv⟩
    exact ⟨⟨o, ho, by omega⟩, v, hv, htv⟩
  · obtain ⟨⟨o, ho, hxo⟩, -⟩ := hjoins ⟨u, hu⟩
    exact ⟨⟨u, hu, hut⟩, o, ho, by omega⟩
  · exact ⟨⟨u, hu, hut⟩, v, hv, htv⟩

theorem gapless_union {L : Set (ℤ × ℤ)} (hW : ∀ o ∈ W, o.1 ≤ o.2) (hL : ∀ x ∈ L, x.1 ≤ x.2) (hone : L.Subsingleton)
    (h : Gapless W) : Gapless (W ∪ L) ↔ ∀ x ∈ L, Joins W x := by
  rcases hone.eq_empty_or_singleton with rfl | ⟨x, rfl⟩
  · simpa using h
  · rw [Set.union_singleton, gapless_insert hW (hL x rfl) h]
    simp

end JLMirror.Foundations
