import Mathlib.Data.List.Nodup

/-!
# Tables as lists of rows

A table of a relational database as the list of its rows, in insertion order. The lemmas are
those that a program over such tables needs again and again: what an `UPDATE … WHERE` leaves
alone, what it does to the rows a query selects, and how it acts on unique keys.
-/

namespace JLMirror.Foundations

variable {α κ : Type*}

/-- `UPDATE … SET f WHERE p`. -/
def updateWhere (p : α → Bool) (f : α → α) (rows : List α) : List α :=
  rows.map fun r => if p r then f r else r

@[simp] theorem updateWhere_nil (p : α → Bool) (f : α → α) : updateWhere p f [] = [] := rfl

@[simp] theorem updateWhere_cons (p : α → Bool) (f : α → α) (r : α) (rows : List α) :
    updateWhere p f (r :: rows) = (if p r then f r else r) :: updateWhere p f rows := rfl

@[simp] theorem updateWhere_append (p : α → Bool) (f : α → α) (rows rows' : List α) :
    updateWhere p f (rows ++ rows') = updateWhere p f rows ++ updateWhere p f rows' := by
  simp [updateWhere]

theorem mem_updateWhere {p : α → Bool} {f : α → α} {rows : List α} {x : α} :
    x ∈ updateWhere p f rows ↔ ∃ r ∈ rows, (if p r then f r else r) = x := by
  simp [updateWhere]

theorem mem_updateWhere_of_not {p : α → Bool} {f : α → α} {rows : List α} {r : α} (hr : r ∈ rows)
    (hp : p r = false) : r ∈ updateWhere p f rows :=
  mem_updateWhere.2 ⟨r, hr, by simp [hp]⟩

theorem updateWhere_of_none {p : α → Bool} {f : α → α} {rows : List α} (h : ∀ r ∈ rows, p r = false) :
    updateWhere p f rows = rows :=
  (List.map_congr_left fun r hr => by simp [h r hr]).trans (List.map_id rows)

theorem updateWhere_congr {p q : α → Bool} {f : α → α} {rows : List α} (h : ∀ r ∈ rows, p r = q r) :
    updateWhere p f rows = updateWhere q f rows :=
  List.map_congr_left fun r hr => by rw [h r hr]

theorem map_updateWhere {p : α → Bool} {f : α → α} {k : α → κ} (hk : ∀ r, k (f r) = k r) (rows : List α) :
    (updateWhere p f rows).map k = rows.map k := by
  rw [updateWhere, List.map_map]
  refine List.map_congr_left fun r _ => ?_
  simp only [Function.comp_apply]
  split_ifs
  · exact hk r
  · rfl

/-- Two updates in a row are one, when the second selects what the first has set. -/
theorem updateWhere_updateWhere {p q : α → Bool} {f g h : α → α} {rows : List α}
    (hp : ∀ r ∈ rows, p r = true → q (f r) = true ∧ g (f r) = h r) (hn : ∀ r ∈ rows, p r = false → q r = false) :
    updateWhere q g (updateWhere p f rows) = updateWhere p h rows := by
  rw [updateWhere, updateWhere, updateWhere, List.map_map]
  refine List.map_congr_left fun r hr => ?_
  cases hpr : p r with
  | false => simp [hpr, hn r hr hpr]
  | true =>
    obtain ⟨h₁, h₂⟩ := hp r hr hpr
    simp [hpr, h₁, h₂]

/-- An update of rows that a query rejects before and after does not change what it selects. -/
theorem filter_updateWhere {p q : α → Bool} {f : α → α} {rows : List α}
    (h : ∀ r ∈ rows, p r = true → q r = false ∧ q (f r) = false) :
    (updateWhere p f rows).filter q = rows.filter q := by
  induction rows with
  | nil => rfl
  | cons r rows ih =>
    have ih := ih fun r' hr' => h r' (List.mem_cons_of_mem r hr')
    rw [updateWhere_cons]
    cases hp : p r with
    | false => simp [List.filter_cons, ih]
    | true =>
      obtain ⟨h₁, h₂⟩ := h r List.mem_cons_self hp
      simp [h₁, h₂, ih]

theorem length_filter_updateWhere_le {p q : α → Bool} {f : α → α} (h : ∀ r, q (f r) = true → q r = true) (rows : List α) :
    ((updateWhere p f rows).filter q).length ≤ (rows.filter q).length := by
  rw [updateWhere, List.filter_map, List.length_map]
  refine (List.monotone_filter_right rows fun r hr => ?_).length_le
  simp only [Function.comp_apply] at hr
  split_ifs at hr
  · exact h r hr
  · exact hr

/-- A query that an update does not disturb selects the same rows, updated. -/
theorem updateWhere_filter {p q : α → Bool} {f : α → α} {rows : List α} (h : ∀ r, q (f r) = q r) :
    (updateWhere p f rows).filter q = updateWhere p f (rows.filter q) := by
  rw [updateWhere, updateWhere, List.filter_map]
  refine congrArg _ (List.filter_congr fun r _ => ?_)
  simp only [Function.comp_apply]
  split_ifs
  · exact h r
  · rfl

theorem find?_updateWhere {p q : α → Bool} {f : α → α} (h : ∀ r, p r = true → q (f r) = q r) (rows : List α) :
    (updateWhere p f rows).find? q = (rows.find? q).map fun r => if p r then f r else r := by
  rw [updateWhere, List.find?_map]
  congr 2
  funext r
  simp only [Function.comp_apply]
  split_ifs with hp
  · exact h r hp
  · rfl

/-- `INSERT`, where a row that repeats a unique key of another raises. -/
def insertUnless {ε : Type*} (clash : α → Bool) (e : ε) (row : α) (rows : List α) : Except ε (List α) :=
  if rows.any clash then .error e else .ok (rows ++ [row])

theorem insertUnless_ok_iff {ε : Type*} {clash : α → Bool} {e : ε} {row : α} {rows rows' : List α} :
    insertUnless clash e row rows = .ok rows' ↔ (∀ r ∈ rows, clash r = false) ∧ rows' = rows ++ [row] := by
  unfold insertUnless
  split_ifs with h
  · simp only [List.any_eq_true] at h
    simp only [false_iff, not_and]
    obtain ⟨r, hr, hc⟩ := h
    exact fun hno => absurd (hno r hr) (by simp [hc])
  · simp only [List.any_eq_true, not_exists, not_and, Bool.not_eq_true] at h
    simp only [Except.ok.injEq, eq_comm (a := rows'), iff_and_self]
    exact fun _ => h

theorem insertUnless_of_new {ε : Type*} {clash : α → Bool} {e : ε} {row : α} {rows : List α}
    (h : ∀ r ∈ rows, clash r = false) : insertUnless clash e row rows = .ok (rows ++ [row]) :=
  insertUnless_ok_iff.2 ⟨h, rfl⟩

theorem nodup_map_of_length_le_one (k : α → κ) {rows : List α} (h : rows.length ≤ 1) : (rows.map k).Nodup := by
  rcases rows with _ | ⟨r, _ | ⟨_, _⟩⟩
  · exact List.nodup_nil
  · exact List.nodup_singleton _
  · simp at h

theorem nodup_map_append_new {k : α → κ} {rows : List α} (hk : (rows.map k).Nodup) {a : α}
    (hnew : ∀ r ∈ rows, k r ≠ k a) : ((rows ++ [a]).map k).Nodup := by
  rw [List.map_append, List.map_singleton]
  refine List.nodup_append.2 ⟨hk, List.nodup_singleton _, ?_⟩
  rintro _ hx _ hy rfl
  obtain ⟨r, hr, heq⟩ := List.mem_map.1 hx
  exact hnew r hr (heq.trans (List.mem_singleton.1 hy))

theorem eq_of_key {k : α → κ} {rows : List α} (hk : (rows.map k).Nodup) {r r' : α} (hr : r ∈ rows)
    (hr' : r' ∈ rows) (h : k r = k r') : r = r' :=
  List.inj_on_of_nodup_map hk hr hr' h

theorem length_le_one_of_key {f : α → κ} {rows : List α} (hf : (rows.map f).Nodup) {k : κ} (hk : ∀ r ∈ rows, f r = k) :
    rows.length ≤ 1 := by
  have hall : rows.map f = List.replicate rows.length k :=
    List.eq_replicate_iff.2 ⟨List.length_map .., fun b hb => by
      obtain ⟨r, hr, rfl⟩ := List.mem_map.1 hb
      exact hk r hr⟩
  rw [hall, List.nodup_replicate] at hf
  exact hf

/-- A selection of rows with one key has one at most. -/
theorem length_filter_le_one {k : α → κ} {rows : List α} (hk : (rows.map k).Nodup) {p : α → Bool}
    (hp : ∀ r ∈ rows, ∀ r' ∈ rows, p r = true → p r' = true → k r = k r') : (rows.filter p).length ≤ 1 := by
  rcases List.eq_nil_or_concat (rows.filter p) with hnil | ⟨rows', r, hrows⟩
  · rw [hnil]
    exact Nat.zero_le 1
  · have hr : r ∈ rows.filter p := by simp [hrows]
    obtain ⟨hr, hpr⟩ := List.mem_filter.1 hr
    refine length_le_one_of_key (k := k r) (hk.sublist (List.filter_sublist.map k)) fun r' hr' => ?_
    obtain ⟨hr', hpr'⟩ := List.mem_filter.1 hr'
    exact hp r' hr' r hr hpr' hpr

/-- Rows that are joined to one row each at most keep their keys unique. -/
theorem nodup_map_flatMap {β : Type*} {rows : List α} {f : α → List β} {k : α → κ} {k' : β → κ} (hk : (rows.map k).Nodup)
    (hkey : ∀ r ∈ rows, ∀ x ∈ f r, k' x = k r) (hone : ∀ r ∈ rows, (f r).length ≤ 1) :
    ((rows.flatMap f).map k').Nodup := by
  induction rows with
  | nil => exact List.nodup_nil
  | cons r rows ih =>
    obtain ⟨hnew, hrest⟩ := List.nodup_cons.1 hk
    rw [List.flatMap_cons, List.map_append]
    refine List.nodup_append.2 ⟨nodup_map_of_length_le_one k' (hone r List.mem_cons_self),
      ih hrest (fun r' hr' => hkey r' (List.mem_cons_of_mem r hr')) fun r' hr' => hone r' (List.mem_cons_of_mem r hr'), ?_⟩
    rintro _ hkx _ hky rfl
    obtain ⟨x, hx, rfl⟩ := List.mem_map.1 hkx
    obtain ⟨y, hjoin, heq⟩ := List.mem_map.1 hky
    obtain ⟨r', hr', hy⟩ := List.mem_flatMap.1 hjoin
    refine hnew (List.mem_map.2 ⟨r', hr', ?_⟩)
    rw [← hkey r' (List.mem_cons_of_mem r hr') y hy, heq, hkey r List.mem_cons_self x hx]

theorem find?_of_key {k : α → κ} {rows : List α} (hk : (rows.map k).Nodup) {r : α} (hr : r ∈ rows) {p : α → Bool}
    (hp : ∀ r', p r' = true → k r' = k r) : rows.find? p = if p r then some r else none := by
  cases hfind : rows.find? p with
  | none => rw [if_neg (List.find?_eq_none.1 hfind r hr)]
  | some r' =>
    obtain rfl : r' = r := eq_of_key hk (List.mem_of_find?_eq_some hfind) hr (hp r' (List.find?_some hfind))
    rw [if_pos (List.find?_some hfind)]

/-- A list without repeated keys holds a key once at most. -/
theorem filter_key_cases [DecidableEq κ] {key : α → κ} {l : List α} (hnd : (l.map key).Nodup) (k : κ) :
    (l.filter fun a => key a = k) = [] ∨ ∃ a ∈ l, key a = k ∧ (l.filter fun a => key a = k) = [a] := by
  induction l with
  | nil => exact Or.inl rfl
  | cons a l ih =>
    obtain ⟨hnew, hnd⟩ := List.nodup_cons.1 hnd
    by_cases hk : key a = k
    · refine Or.inr ⟨a, List.mem_cons_self, hk, ?_⟩
      rw [List.filter_cons_of_pos (by simpa using hk), List.filter_eq_nil_iff.2]
      intro b hb hbk
      exact hnew (List.mem_map.2 ⟨b, hb, (of_decide_eq_true hbk).trans hk.symm⟩)
    · rw [List.filter_cons_of_neg (by simpa using hk)]
      rcases ih hnd with h | ⟨b, hb, hbk, h⟩
      · exact Or.inl h
      · exact Or.inr ⟨b, List.mem_cons_of_mem a hb, hbk, h⟩

end JLMirror.Foundations
