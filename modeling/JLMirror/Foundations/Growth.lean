import JLMirror.Foundations.Table

/-!
# Tables that grow

A table whose rows are updated in place and never deleted: after a transaction there is first every row that was there,
as it is now, and then what was inserted. `GrownBy keep new` says so, with what becomes of a row (`keep`) and what may
be inserted (`new`).
-/

namespace JLMirror.Foundations

variable {α κ : Type*}

/-- Every row goes on as one that `keep` relates to it, and the rows behind them are `new`. -/
def GrownBy (keep : α → α → Prop) (new : α → Prop) (rows rows' : List α) : Prop :=
  ∃ f more, rows' = rows.map f ++ more ∧ (∀ r ∈ rows, keep r (f r)) ∧ ∀ r ∈ more, new r

variable {keep : α → α → Prop} {new new' : α → Prop} {rows rows' rows'' : List α}

theorem GrownBy.of_updates {p : α → Bool} {f : α → α} {more : List α} (h : rows' = updateWhere p f rows ++ more)
    (hsame : ∀ r, keep r r) (hf : ∀ r, keep r (f r)) (hnew : ∀ r ∈ more, new r) : GrownBy keep new rows rows' := by
  refine ⟨_, more, h, fun r _ => ?_, hnew⟩
  split_ifs
  · exact hf r
  · exact hsame r

theorem GrownBy.of_update {p : α → Bool} {f : α → α} (h : rows' = updateWhere p f rows) (hsame : ∀ r, keep r r)
    (hf : ∀ r, keep r (f r)) : GrownBy keep new rows rows' :=
  .of_updates (h.trans (List.append_nil _).symm) hsame hf (by simp)

theorem GrownBy.of_append {more : List α} (h : rows' = rows ++ more) (hsame : ∀ r, keep r r)
    (hnew : ∀ r ∈ more, new r) : GrownBy keep new rows rows' :=
  ⟨id, more, by rw [h, List.map_id], fun r _ => hsame r, hnew⟩

theorem GrownBy.of_eq (h : rows' = rows) (hsame : ∀ r, keep r r) : GrownBy keep new rows rows' :=
  .of_append (h.trans (List.append_nil _).symm) hsame (by simp)

theorem GrownBy.mono (h : GrownBy keep new rows rows') (hnew : ∀ r, new r → new' r) : GrownBy keep new' rows rows' := by
  obtain ⟨f, more, heq, hf, hmore⟩ := h
  exact ⟨f, more, heq, hf, fun r hr => hnew r (hmore r hr)⟩

theorem GrownBy.trans (htrans : ∀ r s t, keep r s → keep s t → keep r t) (h : GrownBy keep (fun _ => False) rows rows')
    (h' : GrownBy keep new rows' rows'') : GrownBy keep new rows rows'' := by
  obtain ⟨f, more, rfl, hf, hmore⟩ := h
  obtain rfl : more = [] := List.eq_nil_iff_forall_not_mem.2 hmore
  rw [List.append_nil] at h'
  obtain ⟨g, more, rfl, hg, hmore⟩ := h'
  refine ⟨g ∘ f, more, by rw [List.map_map], fun r hr => ?_, hmore⟩
  exact htrans r (f r) _ (hf r hr) (hg _ (List.mem_map_of_mem hr))

theorem GrownBy.mem (h : GrownBy keep new rows rows') {r : α} (hr : r ∈ rows) : ∃ r' ∈ rows', keep r r' := by
  obtain ⟨f, more, rfl, hf, -⟩ := h
  exact ⟨f r, List.mem_append_left more (List.mem_map_of_mem hr), hf r hr⟩

theorem GrownBy.mem_or (h : GrownBy keep new rows rows') {r' : α} (hr' : r' ∈ rows') :
    (∃ r ∈ rows, keep r r') ∨ new r' := by
  obtain ⟨f, more, rfl, hf, hmore⟩ := h
  rcases List.mem_append.1 hr' with hmem | hmem
  · obtain ⟨r, hr, rfl⟩ := List.mem_map.1 hmem
    exact Or.inl ⟨r, hr, hf r hr⟩
  · exact Or.inr (hmore r' hmem)

end JLMirror.Foundations
