import Mathlib.Data.List.Basic

/-!
# Fields joined by a separator

A text that joins fields by a separator says what the fields are only where their number of separators
is known: joined lists of fields are equal to as many fields with as many separators in each of them but
the last only if the fields are equal.

**Key result** (`intercalate_inj`): joining is injective on fields whose separators are counted alike.
-/

namespace JLMirror.Foundations

variable {α : Type*} [DecidableEq α] {sep : α}

/-- The first field ends where its separators do. -/
theorem append_sep_inj {a b x y : List α} (h : a ++ sep :: x = b ++ sep :: y) (hc : a.count sep = b.count sep) :
    a = b ∧ x = y := by
  induction a generalizing b with
  | nil =>
    cases b with
    | nil => exact ⟨rfl, (List.cons.inj h).2⟩
    | cons c b =>
      obtain ⟨rfl, -⟩ := List.cons.inj h
      simp at hc
  | cons c a ih =>
    cases b with
    | nil =>
      obtain ⟨rfl, -⟩ := List.cons.inj h
      simp at hc
    | cons d b =>
      obtain ⟨rfl, htail⟩ := List.cons.inj h
      rw [List.count_cons, List.count_cons, Nat.add_right_cancel_iff] at hc
      obtain ⟨rfl, rfl⟩ := ih htail hc
      exact ⟨rfl, rfl⟩

/-- **Key result.** Joining is injective on fields whose separators are counted alike, the last apart. -/
theorem intercalate_inj {fs gs : List (List α)} (h : [sep].intercalate fs = [sep].intercalate gs)
    (hlen : fs.length = gs.length)
    (hc : fs.dropLast.map (List.count sep) = gs.dropLast.map (List.count sep)) : fs = gs := by
  induction fs generalizing gs with
  | nil => exact (List.length_eq_zero_iff.1 hlen.symm).symm
  | cons f fs ih =>
    rcases gs with _ | ⟨g, gs⟩
    · simp at hlen
    · rcases fs with _ | ⟨f', fs⟩
      · obtain rfl := List.length_eq_zero_iff.1 (Nat.succ.inj hlen).symm
        simpa using h
      · rcases gs with _ | ⟨g', gs⟩
        · simp at hlen
        · rw [List.dropLast_cons_cons, List.dropLast_cons_cons, List.map_cons, List.map_cons, List.cons.injEq] at hc
          rw [List.intercalate_cons_cons, List.intercalate_cons_cons, List.append_assoc, List.append_assoc] at h
          obtain ⟨rfl, htail⟩ := append_sep_inj h hc.1
          rw [ih htail (Nat.succ.inj hlen) hc.2]

end JLMirror.Foundations
