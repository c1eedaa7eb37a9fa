import JLMirror.Access.MonitoringTables
import JLMirror.Foundations.Base64
import JLMirror.Foundations.JsonReader

/-!
# Cursors

`_encode_cursor` and `decode_cursor` of `shared/monitoring_repo.py`: an object as compact JSON, in base64 that can stand
in a URL. A client gets it as `next_cursor`, and hands it in again with the next request.

## The model

* `json.loads` reads any document, an object with the last value of each key. A fraction, an exponent, and half of a
  surrogate pair are not read, as `Json` has no such values.
* Reading goes with a bound on the depth and length, which the length of the text is enough for.

## What is proved

* `readEntries_dumps`: the members that are written are read, where they are texts and integers.
* **Key result** (`decode_encode_cursor`): a cursor is decoded to what was encoded.
-/

namespace JLMirror.Access

open JLMirror.Foundations JLMirror.Foundations.JsonText JLMirror.Foundations.Base64

/-! ### Writing -/

mutual

/-- `json.dumps(…, separators=(",", ":"))` -/
def dumpsJson : Json → List Char
  | .null => ['n', 'u', 'l', 'l']
  | .bool true => ['t', 'r', 'u', 'e']
  | .bool false => ['f', 'a', 'l', 's', 'e']
  | .num n => dumpsInt n
  | .str text => dumpsText text
  | .arr values => '[' :: (dumpsValues values ++ [']'])
  | .obj entries => '\x7b' :: (dumpsEntries entries ++ ['\x7d'])

def dumpsValues : List Json → List Char
  | [] => []
  | v :: rest => dumpsJson v ++ if rest.isEmpty then [] else ',' :: dumpsValues rest

def dumpsEntries : List (String × Json) → List Char
  | [] => []
  | (key, v) :: rest => dumpsText key ++ ':' :: (dumpsJson v ++ if rest.isEmpty then [] else ',' :: dumpsEntries rest)

end

/-- `_encode_cursor` -/
def _encode_cursor (payload : List (String × Json)) : String :=
  .ofList (b64encode (String.ofList (dumpsJson (.obj payload))).toUTF8.data.toList)

/-! ### Reading -/

/-- White space of JSON. -/
def skip (t : List Char) : List Char := t.dropWhile fun c => c ∈ [' ', '\t', '\n', '\r']

/-- A member of a dictionary is set. -/
def setEntry (entries : List (String × Json)) (e : String × Json) : List (String × Json) :=
  if entries.any fun x => x.1 = e.1 then entries.map fun x => if x.1 = e.1 then e else x else entries ++ [e]

/-- A dictionary of members, the last one of each key. -/
def dict (entries : List (String × Json)) : List (String × Json) := entries.foldl setEntry []

mutual

/-- A value, and what is left of the text. -/
def readValue : ℕ → List Char → Option (Json × List Char)
  | 0, _ => none
  | n + 1, t =>
    match t with
    | '"' :: t => (readText t).map fun r => (.str r.1, r.2)
    | '\x7b' :: t => (readObject n (skip t)).map fun r => (.obj (dict r.1), r.2)
    | '[' :: t => (readArray n (skip t)).map fun r => (.arr r.1, r.2)
    | 'n' :: 'u' :: 'l' :: 'l' :: t => some (.null, t)
    | 't' :: 'r' :: 'u' :: 'e' :: t => some (.bool true, t)
    | 'f' :: 'a' :: 'l' :: 's' :: 'e' :: t => some (.bool false, t)
    | t => (readInt t).map fun r => (.num r.1, r.2)

/-- The members of an object, if it has any. -/
def readObject : ℕ → List Char → Option (List (String × Json) × List Char)
  | 0, _ => none
  | n + 1, t =>
    match t with
    | '\x7d' :: t => some ([], t)
    | t => readEntries n t

def readEntries : ℕ → List Char → Option (List (String × Json) × List Char)
  | 0, _ => none
  | n + 1, t =>
    match t with
    | '"' :: t =>
      (readText t).bind fun (key, t) =>
        match skip t with
        | ':' :: t =>
          (readValue n (skip t)).bind fun (v, t) =>
            match skip t with
            | '\x7d' :: t => some ([(key, v)], t)
            | ',' :: t => (readEntries n (skip t)).map fun r => ((key, v) :: r.1, r.2)
            | _ => none
        | _ => none
    | _ => none

/-- The values of an array, if it has any. -/
def readArray : ℕ → List Char → Option (List Json × List Char)
  | 0, _ => none
  | n + 1, t =>
    match t with
    | ']' :: t => some ([], t)
    | t => readValues n t

def readValues : ℕ → List Char → Option (List Json × List Char)
  | 0, _ => none
  | n + 1, t =>
    (readValue n t).bind fun (v, t) =>
      match skip t with
      | ']' :: t => some ([v], t)
      | ',' :: t => (readValues n (skip t)).map fun r => (v :: r.1, r.2)
      | _ => none

end

/-- `json.loads`; `none` is a `JSONDecodeError`. -/
def loads (text : List Char) : Option Json :=
  (readValue (2 * text.length + 2) (skip text)).bind fun (v, rest) => if skip rest = [] then some v else none

/-- `decode_cursor`; `none` is the `ValueError`. -/
def decode_cursor (cursor : String) : Option (List (String × Json)) := do
  let octets ← b64decode cursor.toList
  let text ← String.fromUTF8? octets.toByteArray
  match ← loads text.toList with
  | .obj entries => some entries
  | _ => none

/-! ### What is written is read -/

/-- A text or an integer. -/
inductive Flat : Json → Prop
  | num (n : ℤ) : Flat (.num n)
  | str (text : String) : Flat (.str text)

theorem skip_cons {c : Char} (h : c ∉ [' ', '\t', '\n', '\r']) (t : List Char) : skip (c :: t) = c :: t :=
  List.dropWhile_cons_of_neg (by simpa using h)

attribute [local simp] readValue dumpsEntries

theorem readValue_number {c : Char} (h : c ∉ ['"', '\x7b', '[', 'n', 't', 'f']) (n : ℕ) (t : List Char) :
    readValue (n + 1) (c :: t) = (readInt (c :: t)).map fun r => (.num r.1, r.2) := by
  rw [readValue.eq_def]
  split <;> simp_all

/-- An integer begins with a sign or a digit. -/
theorem dumpsInt_head (n : ℤ) :
    ∃ c t, dumpsInt n = c :: t ∧ ∀ l : List Char, (∀ x ∈ l, x ≠ '-' ∧ x.isDigit = false) → c ∉ l := by
  rw [dumpsInt]
  split_ifs
  · exact ⟨_, _, rfl, fun l hl hmem => (hl _ hmem).1 rfl⟩
  · cases hdigits : Nat.toDigits 10 n.natAbs with
    | nil => exact absurd hdigits Nat.toDigits_ne_nil
    | cons c t =>
      have hdigit : c.isDigit = true :=
        Nat.isDigit_of_mem_toDigits (by omega) (by omega) (hdigits ▸ List.mem_cons_self)
      exact ⟨c, t, rfl, fun l hl hmem => absurd hdigit (by simp [(hl c hmem).2])⟩

theorem head_dumps {v : Json} (hv : Flat v) (rest : List Char) :
    ∃ c t, dumpsJson v ++ rest = c :: t ∧ c ∉ [' ', '\t', '\n', '\r'] := by
  cases hv with
  | num n =>
    obtain ⟨c, t, heq, hc⟩ := dumpsInt_head n
    exact ⟨c, t ++ rest, by rw [dumpsJson, heq, List.cons_append], hc _ (by simp [Char.isDigit])⟩
  | str text =>
    obtain ⟨t, heq, -⟩ := readText_dumpsText text rest
    exact ⟨'"', t, by rw [dumpsJson, heq], by decide⟩

theorem readValue_dumps {v : Json} (hv : Flat v) (n : ℕ) {rest : List Char} (hrest : endsNumber rest = true) :
    readValue (n + 1) (dumpsJson v ++ rest) = some (v, rest) := by
  cases hv with
  | num k =>
    obtain ⟨c, t, heq, hc⟩ := dumpsInt_head k
    have hread := readInt_dumpsInt k hrest
    rw [dumpsJson]
    rw [heq, List.cons_append] at hread ⊢
    rw [readValue_number (hc _ (by simp [Char.isDigit])), hread, Option.map_some]
  | str text =>
    obtain ⟨t, heq, hread⟩ := readText_dumpsText text rest
    rw [dumpsJson, heq, readValue, hread, Option.map_some]

/-- A member that is written is read, and then what is after it. -/
theorem readEntries_member {key : String} {v : Json} (hv : Flat v) (n : ℕ) {z : Char} (hz : z = ',' ∨ z = '\x7d')
    (rest : List Char) :
    readEntries (n + 2) (dumpsText key ++ ':' :: (dumpsJson v ++ z :: rest)) =
      if z = ',' then (readEntries (n + 1) (skip rest)).map fun r => ((key, v) :: r.1, r.2)
      else some ([(key, v)], rest) := by
  have hends : endsNumber (z :: rest) = true := by rcases hz with rfl | rfl <;> rfl
  have hskip : skip (z :: rest) = z :: rest := skip_cons (by rcases hz with rfl | rfl <;> decide) rest
  obtain ⟨t, heq, hread⟩ := readText_dumpsText key (':' :: (dumpsJson v ++ z :: rest))
  obtain ⟨c, t', hhead, hspace⟩ := head_dumps hv (z :: rest)
  have hcolon : skip (':' :: (dumpsJson v ++ z :: rest)) = ':' :: (dumpsJson v ++ z :: rest) := skip_cons (by decide) _
  have hvalue : readValue (n + 1) (skip (dumpsJson v ++ z :: rest)) = some (v, z :: rest) := by
    rw [hhead, skip_cons hspace, ← hhead]
    exact readValue_dumps hv n hends
  rw [heq, readEntries]
  simp only [hread, Option.bind_some, hcolon, hvalue, hskip]
  rcases hz with rfl | rfl <;> rfl

/-- The members that are written are read. -/
theorem readEntries_dumps (entries : List (String × Json)) (hne : entries ≠ []) (hflat : ∀ e ∈ entries, Flat e.2) (n : ℕ)
    (rest : List Char) :
    readEntries (n + entries.length + 1) (dumpsEntries entries ++ '\x7d' :: rest) = some (entries, rest) := by
  induction entries with
  | nil => exact absurd rfl hne
  | cons e entries ih =>
    obtain ⟨key, v⟩ := e
    have hv : Flat v := hflat _ List.mem_cons_self
    cases entries with
    | nil =>
      have hdumps : dumpsEntries [(key, v)] ++ '\x7d' :: rest =
          dumpsText key ++ ':' :: (dumpsJson v ++ '\x7d' :: rest) := by
        simp
      rw [hdumps]
      exact (readEntries_member hv n (Or.inr rfl) rest).trans (if_neg (by decide))
    | cons e' entries =>
      have hdumps : dumpsEntries ((key, v) :: e' :: entries) ++ '\x7d' :: rest =
          dumpsText key ++ ':' :: (dumpsJson v ++ ',' :: (dumpsEntries (e' :: entries) ++ '\x7d' :: rest)) := by
        rw [dumpsEntries]
        simp
      have hrest := ih (List.cons_ne_nil _ _) fun x hx => hflat x (List.mem_cons_of_mem _ hx)
      have hskip : skip (dumpsEntries (e' :: entries) ++ '\x7d' :: rest) =
          dumpsEntries (e' :: entries) ++ '\x7d' :: rest := by
        rw [dumpsEntries, dumpsText]
        exact skip_cons (by decide) _
      rw [hdumps]
      refine (readEntries_member hv (n + (e' :: entries).length) (Or.inl rfl) _).trans ?_
      rw [if_pos rfl, hskip, hrest, Option.map_some]

/-- Members with different keys make up a dictionary. -/
theorem dict_of_nodup {entries : List (String × Json)} (h : (entries.map Prod.fst).Nodup) : dict entries = entries := by
  suffices hfold : ∀ acc, ((acc ++ entries).map Prod.fst).Nodup → entries.foldl setEntry acc = acc ++ entries from
    hfold [] h
  clear h
  induction entries with
  | nil => exact fun acc _ => (List.append_nil acc).symm
  | cons e entries ih =>
    intro acc hacc
    have hnew : (acc.any fun x => x.1 = e.1) = false := by
      rw [List.map_append, List.map_cons] at hacc
      refine List.any_eq_false.2 fun x hx heq => ?_
      exact (List.nodup_append.1 hacc).2.2 x.1 (List.mem_map_of_mem hx) e.1 List.mem_cons_self (of_decide_eq_true heq)
    rw [List.foldl_cons, setEntry, if_neg (by simp [hnew]), ih _ (by rwa [List.append_assoc]), List.append_assoc]
    rfl

theorem length_le_dumpsEntries (entries : List (String × Json)) : entries.length ≤ (dumpsEntries entries).length := by
  induction entries with
  | nil => exact Nat.zero_le _
  | cons e entries ih =>
    obtain ⟨key, v⟩ := e
    cases entries with
    | nil => simp [dumpsText]
    | cons e' entries =>
      rw [dumpsEntries]
      simp only [List.isEmpty_cons, Bool.false_eq_true, if_false, List.length_append, List.length_cons] at ih ⊢
      omega

/-- An object of texts and integers is loaded as it was dumped. -/
theorem loads_dumps {payload : List (String × Json)} (hne : payload ≠ []) (hflat : ∀ e ∈ payload, Flat e.2)
    (hkeys : (payload.map Prod.fst).Nodup) : loads (dumpsJson (.obj payload)) = some (.obj payload) := by
  have hlen := length_le_dumpsEntries payload
  have hquote : ∃ t, dumpsEntries payload ++ ['\x7d'] = '"' :: t := by
    cases payload with
    | nil => exact absurd rfl hne
    | cons e entries =>
      obtain ⟨key, v⟩ := e
      rw [dumpsEntries, dumpsText]
      exact ⟨_, rfl⟩
  obtain ⟨t, ht⟩ := hquote
  -- the bound leaves enough for the members
  obtain ⟨n, hn⟩ : ∃ n, 2 * (dumpsJson (.obj payload)).length + 2 = n + payload.length + 1 + 2 := by
    refine ⟨2 * (dumpsJson (.obj payload)).length + 2 - (payload.length + 3), ?_⟩
    have hobj : (dumpsJson (.obj payload)).length = (dumpsEntries payload).length + 2 := by simp [dumpsJson]
    omega
  have hread := readEntries_dumps payload hne hflat n []
  have hvalue : readValue (n + payload.length + 1 + 2) (dumpsJson (.obj payload)) = some (.obj payload, []) := by
    rw [dumpsJson, readValue, ht, skip_cons (by decide), readObject]
    · rw [← ht, hread, Option.map_some, dict_of_nodup hkeys]
    · rintro u ⟨⟩
  rw [loads, hn]
  have hskip : skip (dumpsJson (.obj payload)) = dumpsJson (.obj payload) := by
    rw [dumpsJson]
    exact skip_cons (by decide) _
  rw [hskip, hvalue]
  rfl

theorem fromUTF8_toUTF8 (s : String) : String.fromUTF8? s.toUTF8 = some s := dif_pos s.isValidUTF8

/-- **Key result**: a cursor is decoded to what was encoded. -/
theorem decode_encode_cursor {payload : List (String × Json)} (hne : payload ≠ []) (hflat : ∀ e ∈ payload, Flat e.2)
    (hkeys : (payload.map Prod.fst).Nodup) : decode_cursor (_encode_cursor payload) = some payload := by
  have hoctets : ∀ b : ByteArray, b.data.toList.toByteArray = b := fun b =>
    ByteArray.ext (by rw [List.data_toByteArray, Array.toArray_toList])
  rw [decode_cursor, _encode_cursor, String.toList_ofList, b64decode_b64encode]
  simp only [Option.bind_eq_bind, Option.bind_some, hoctets, fromUTF8_toUTF8, String.toList_ofList,
    loads_dumps hne hflat hkeys]

theorem decode_cursor_empty : decode_cursor "" = none := by
  have htext : String.fromUTF8? ([] : List UInt8).toByteArray = some "" := fromUTF8_toUTF8 ""
  have hload : loads "".toList = none := rfl
  rw [decode_cursor, show b64decode "".toList = some [] from rfl]
  simp only [Option.bind_eq_bind, Option.bind_some, htext, hload, Option.bind_none]

end JLMirror.Access
