import Mathlib.Data.List.Dedup

/-!
# Writes that overwrite each other

`overwrite` performs the writes of a list, one after another, each at its key. A write is of a call; a call may write more
than once, always at one key. `lastOf` keeps the last write of each call, and comes to the same (`overwrite_lastOf`).
-/

namespace JLMirror.Foundations

variable {α κ ν ι : Type*} [DecidableEq κ]

/-- The writes of a list, one after another. -/
def overwrite (key : α → κ) (value : α → ν) (d : κ → ν) (writes : List α) : κ → ν :=
  writes.foldl (fun d a => Function.update d (key a) (value a)) d

section Overwrite

variable {key : α → κ} {value : α → ν} {d : κ → ν} {writes : List α} {a : α}

theorem overwrite_cons : overwrite key value d (a :: writes) =
    overwrite key value (Function.update d (key a) (value a)) writes := rfl

/-- What is written at a key does not matter once the key is written again. -/
theorem overwrite_update {k : κ} (v : ν) (h : ∃ b ∈ writes, key b = k) :
    overwrite key value (Function.update d k v) writes = overwrite key value d writes := by
  induction writes generalizing d with
  | nil =>
    obtain ⟨b, hb, -⟩ := h
    exact absurd hb List.not_mem_nil
  | cons c writes ih =>
    rw [overwrite_cons, overwrite_cons]
    by_cases hc : key c = k
    · rw [hc, Function.update_idem]
    · rw [Function.update_comm (Ne.symm hc)]
      refine ih ?_
      obtain ⟨b, hb, hk⟩ := h
      rcases List.mem_cons.1 hb with rfl | hb
      · exact absurd hk hc
      · exact ⟨b, hb, hk⟩

end Overwrite

section LastOf

variable [DecidableEq ι] {key : α → κ} {value : α → ν} {call : α → ι} {writes : List α}

/-- The last write of each call. -/
def lastOf (call : α → ι) (writes : List α) : List α := writes.pwFilter fun a b => call a ≠ call b

theorem lastOf_sublist (call : α → ι) (writes : List α) : (lastOf call writes).Sublist writes := List.pwFilter_sublist _

theorem nodup_lastOf (call : α → ι) (writes : List α) : ((lastOf call writes).map call).Nodup :=
  List.pairwise_map.2 (List.pairwise_pwFilter _)

theorem exists_mem_lastOf (call : α → ι) {a : α} (ha : a ∈ writes) : ∃ b ∈ lastOf call writes, call b = call a := by
  induction writes with
  | nil => exact absurd ha List.not_mem_nil
  | cons c writes ih =>
    unfold lastOf at ih ⊢
    by_cases hc : ∀ b ∈ writes.pwFilter fun a b => call a ≠ call b, call c ≠ call b
    · rw [List.pwFilter_cons_of_pos hc]
      rcases List.mem_cons.1 ha with rfl | ha
      · exact ⟨a, List.mem_cons_self, rfl⟩
      · obtain ⟨b, hb, hcall⟩ := ih ha
        exact ⟨b, List.mem_cons_of_mem _ hb, hcall⟩
    · rw [List.pwFilter_cons_of_neg hc]
      rcases List.mem_cons.1 ha with rfl | ha
      · push Not at hc
        obtain ⟨b, hb, hcall⟩ := hc
        exact ⟨b, hb, hcall.symm⟩
      · exact ih ha

/-- The last writes come to the same. -/
theorem overwrite_lastOf (key : α → κ) (value : α → ν) (h : ∀ a ∈ writes, ∀ b ∈ writes, call a = call b → key a = key b) (d : κ → ν) :
    overwrite key value d (lastOf call writes) = overwrite key value d writes := by
  induction writes generalizing d with
  | nil => rfl
  | cons c writes ih =>
    have htail := ih fun a ha b hb => h a (List.mem_cons_of_mem c ha) b (List.mem_cons_of_mem c hb)
    unfold lastOf at htail ⊢
    by_cases hc : ∀ b ∈ writes.pwFilter fun a b => call a ≠ call b, call c ≠ call b
    · rw [List.pwFilter_cons_of_pos hc]
      exact htail _
    · rw [List.pwFilter_cons_of_neg hc, htail d, overwrite_cons]
      push Not at hc
      obtain ⟨b, hb, hcall⟩ := hc
      have hmem : b ∈ writes := (lastOf_sublist call writes).subset hb
      refine (overwrite_update _ ⟨b, hmem, ?_⟩).symm
      exact h b (List.mem_cons_of_mem c hmem) c List.mem_cons_self hcall.symm

end LastOf

end JLMirror.Foundations
