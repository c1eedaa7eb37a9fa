import Mathlib.Data.List.Sort
import Mathlib.Data.String.Basic

/-!
# JSON in ASCII

`json.dumps(…, sort_keys=True, separators=(",", ":"))` of a flat object of texts and lists of texts: the members
in the order of their keys, no spaces, and what is not printable ASCII as escapes of UTF-16.

## The model

* `escape` is `ensure_ascii`. A character beyond the basic plane is two escapes, a surrogate pair.
* `Delimits f`: where the encodings of elements are read one after the other, each tells where it ends.

## What is proved

* `delimits_text`, `delimits_value`, `delimits_member`: what is between commas delimits itself.
* **Key result** (`dumps_inj`): the text of an object determines its members.
-/

namespace JLMirror.Foundations.JsonText

variable {α : Type*}

/-! ### Encodings that delimit themselves -/

/-- An encoded element tells where it ends. -/
def Delimits (f : α → List Char) : Prop := ∀ a b t t', f a ++ t = f b ++ t' → a = b ∧ t = t'

/-- The elements with commas between them. -/
def joined (f : α → List Char) (l : List α) : List Char := [','].intercalate (l.map f)

theorem joined_cons_cons (f : α → List Char) (a b : α) (l : List α) :
    joined f (a :: b :: l) = f a ++ ',' :: joined f (b :: l) := by
  simp [joined]

theorem joined_singleton (f : α → List Char) (a : α) : joined f [a] = f a := by
  simp [joined]

theorem exists_joined_cons (f : α → List Char) (a : α) (l : List α) : ∃ rest, joined f (a :: l) = f a ++ rest := by
  cases l with
  | nil => exact ⟨[], by rw [joined_singleton, List.append_nil]⟩
  | cons b l => exact ⟨_, joined_cons_cons f a b l⟩

/-- Elements up to a mark that is no comma, and that no element starts with. -/
theorem joined_inj {f : α → List Char} (hf : Delimits f) {z : Char} (hz : z ≠ ',')
    (hstart : ∀ a t t', f a ++ t ≠ z :: t') {l l' : List α} {t t' : List Char}
    (h : joined f l ++ z :: t = joined f l' ++ z :: t') : l = l' ∧ t = t' := by
  induction l generalizing l' with
  | nil =>
    cases l' with
    | nil => exact ⟨rfl, (List.cons.inj h).2⟩
    | cons b l' =>
      obtain ⟨rest, hrest⟩ := exists_joined_cons f b l'
      rw [hrest, List.append_assoc] at h
      exact absurd h.symm (hstart _ _ _)
  | cons a l ih =>
    cases l' with
    | nil =>
      obtain ⟨rest, hrest⟩ := exists_joined_cons f a l
      rw [hrest, List.append_assoc] at h
      exact absurd h (hstart _ _ _)
    | cons b l' =>
      -- after the first elements stand a comma or the mark
      cases l with
      | nil =>
        cases l' with
        | nil =>
          rw [joined_singleton, joined_singleton] at h
          obtain ⟨rfl, hrest⟩ := hf _ _ _ _ h
          exact ⟨rfl, (List.cons.inj hrest).2⟩
        | cons b' l' =>
          rw [joined_singleton, joined_cons_cons, List.append_assoc] at h
          exact absurd (List.cons.inj (hf _ _ _ _ h).2).1 hz
      | cons a' l =>
        cases l' with
        | nil =>
          rw [joined_singleton, joined_cons_cons, List.append_assoc] at h
          exact absurd (List.cons.inj (hf _ _ _ _ h).2).1.symm hz
        | cons b' l' =>
          rw [joined_cons_cons, joined_cons_cons, List.append_assoc, List.append_assoc] at h
          obtain ⟨rfl, hrest⟩ := hf _ _ _ _ h
          obtain ⟨hl, ht⟩ := ih (List.cons.inj hrest).2
          exact ⟨by rw [hl], ht⟩

/-! ### Characters -/

/-- The escapes of two characters. -/
def shortEscape : Char → Option Char
  | '"' => some '"'
  | '\\' => some '\\'
  | '\n' => some 'n'
  | '\r' => some 'r'
  | '\t' => some 't'
  | '\x08' => some 'b'
  | '\x0c' => some 'f'
  | _ => none

/-- Four hexadecimal digits. -/
def hex4 (n : ℕ) : List Char := [n / 4096 % 16, n / 256 % 16, n / 16 % 16, n % 16].map Nat.digitChar

/-- The escape of a unit of UTF-16. -/
def escapeUnit (n : ℕ) : List Char := '\\' :: 'u' :: hex4 n

/-- A character in a text. -/
def escape (c : Char) : List Char :=
  match shortEscape c with
  | some x => ['\\', x]
  | none =>
    if ' ' ≤ c ∧ c ≤ '~' then [c]
    else if c.toNat < 0x10000 then escapeUnit c.toNat
    else escapeUnit (0xD800 + (c.toNat - 0x10000) / 0x400) ++ escapeUnit (0xDC00 + (c.toNat - 0x10000) % 0x400)

theorem digitChar_inj {m n : ℕ} (hm : m < 16) (hn : n < 16) (h : m.digitChar = n.digitChar) : m = n := by
  have hall : ∀ m < 16, ∀ n < 16, m.digitChar = n.digitChar → m = n := by decide
  exact hall m hm n hn h

theorem hex4_inj {m n : ℕ} (hm : m < 0x10000) (hn : n < 0x10000) (h : hex4 m = hex4 n) : m = n := by
  simp only [hex4, List.map_cons, List.map_nil, List.cons.injEq, and_true] at h
  obtain ⟨h₁, h₂, h₃, h₄⟩ := h
  have h₁ := digitChar_inj (Nat.mod_lt _ (by omega)) (Nat.mod_lt _ (by omega)) h₁
  have h₂ := digitChar_inj (Nat.mod_lt _ (by omega)) (Nat.mod_lt _ (by omega)) h₂
  have h₃ := digitChar_inj (Nat.mod_lt _ (by omega)) (Nat.mod_lt _ (by omega)) h₃
  have h₄ := digitChar_inj (Nat.mod_lt _ (by omega)) (Nat.mod_lt _ (by omega)) h₄
  omega

theorem escapeUnit_append_inj {m n : ℕ} (hm : m < 0x10000) (hn : n < 0x10000) {t t' : List Char}
    (h : escapeUnit m ++ t = escapeUnit n ++ t') : m = n ∧ t = t' := by
  obtain ⟨hunit, ht⟩ := List.append_inj h rfl
  exact ⟨hex4_inj hm hn (List.cons.inj (List.cons.inj hunit).2).2, ht⟩

/-- What a short escape stands for. -/
def shortEscaped : Char → Char
  | 'n' => '\n'
  | 'r' => '\r'
  | 't' => '\t'
  | 'b' => '\x08'
  | 'f' => '\x0c'
  | x => x

theorem shortEscaped_eq {c x : Char} (h : shortEscape c = some x) : shortEscaped x = c ∧ x ≠ 'u' := by
  unfold shortEscape at h
  split at h <;> cases h <;> exact ⟨rfl, by decide⟩

/-- What the escape of a character is. -/
theorem escape_cases (c : Char) :
    (∃ x, shortEscape c = some x ∧ escape c = ['\\', x]) ∨ (c ≠ '"' ∧ c ≠ '\\' ∧ escape c = [c]) ∨
      (c.toNat < 0x10000 ∧ (c.toNat < 0xD800 ∨ 0xE000 ≤ c.toNat) ∧ escape c = escapeUnit c.toNat) ∨
      0x10000 ≤ c.toNat ∧ c.toNat < 0x110000 ∧
        escape c = escapeUnit (0xD800 + (c.toNat - 0x10000) / 0x400) ++ escapeUnit (0xDC00 + (c.toNat - 0x10000) % 0x400) := by
  cases hshort : shortEscape c with
  | some x => exact Or.inl ⟨x, rfl, by rw [escape, hshort]⟩
  | none =>
    refine Or.inr ?_
    simp only [escape, hshort]
    have hvalid : c.toNat < 0xD800 ∨ 0xDFFF < c.toNat ∧ c.toNat < 0x110000 := c.valid
    split_ifs with hascii hplane
    · refine Or.inl ⟨?_, ?_, rfl⟩ <;> rintro rfl <;> cases hshort
    · exact Or.inr (Or.inl ⟨hplane, by omega, rfl⟩)
    · exact Or.inr (Or.inr ⟨by omega, by omega, rfl⟩)

theorem escape_append_ne (c : Char) (t t' : List Char) : escape c ++ t ≠ '"' :: t' := by
  intro h
  rcases escape_cases c with ⟨x, -, heq⟩ | ⟨hne, -, heq⟩ | ⟨-, -, heq⟩ | ⟨-, -, heq⟩ <;> rw [heq] at h
  · exact absurd (List.cons.inj h).1 (by decide)
  · exact hne (List.cons.inj h).1
  · exact absurd (List.cons.inj h).1 (by decide)
  · exact absurd (List.cons.inj h).1 (by decide)

/-- The escape of a character tells where it ends. -/
theorem delimits_escape : Delimits escape := by
  intro c d t t' h
  rcases escape_cases c with ⟨x, hx, hc⟩ | ⟨-, hslash, hc⟩ | ⟨hlt, hunit, hc⟩ | ⟨hle, hmax, hc⟩ <;>
    rcases escape_cases d with ⟨y, hy, hd⟩ | ⟨-, hslash', hd⟩ | ⟨hlt', hunit', hd⟩ | ⟨hle', hmax', hd⟩ <;>
    rw [hc, hd] at h
  · obtain ⟨rfl, rfl⟩ := List.cons.inj (List.cons.inj h).2
    exact ⟨(shortEscaped_eq hx).1.symm.trans (shortEscaped_eq hy).1, rfl⟩
  · exact absurd (List.cons.inj h).1.symm hslash'
  · exact absurd (List.cons.inj (List.cons.inj h).2).1 (shortEscaped_eq hx).2
  · exact absurd (List.cons.inj (List.cons.inj h).2).1 (shortEscaped_eq hx).2
  · exact absurd (List.cons.inj h).1 hslash
  · exact List.cons.inj h
  · exact absurd (List.cons.inj h).1 hslash
  · exact absurd (List.cons.inj h).1 hslash
  · exact absurd (List.cons.inj (List.cons.inj h).2).1.symm (shortEscaped_eq hy).2
  · exact absurd (List.cons.inj h).1.symm hslash'
  · obtain ⟨heq, rfl⟩ := escapeUnit_append_inj hlt hlt' h
    exact ⟨Char.toNat_inj.1 heq, rfl⟩
  · rw [List.append_assoc] at h
    -- a character is no half of a surrogate pair
    have heq := (escapeUnit_append_inj hlt (by omega) h).1
    omega
  · exact absurd (List.cons.inj (List.cons.inj h).2).1.symm (shortEscaped_eq hy).2
  · exact absurd (List.cons.inj h).1.symm hslash'
  · rw [List.append_assoc] at h
    have heq := (escapeUnit_append_inj (by omega) hlt' h).1
    omega
  · rw [List.append_assoc, List.append_assoc] at h
    obtain ⟨hhigh, h⟩ := escapeUnit_append_inj (by omega) (by omega) h
    obtain ⟨hlow, rfl⟩ := escapeUnit_append_inj (by omega) (by omega) h
    exact ⟨Char.toNat_inj.1 (by omega), rfl⟩

/-! ### Texts, lists and members -/

/-- What a member of a payload is. -/
inductive JsonValue where
  | text (s : String)
  | texts (l : List String)
  deriving DecidableEq

/-- A text in quotes. -/
def dumpsText (s : String) : List Char := '"' :: (s.toList.flatMap escape ++ ['"'])

/-- A value. -/
def dumpsValue : JsonValue → List Char
  | .text s => dumpsText s
  | .texts l => '[' :: (joined dumpsText l ++ [']'])

/-- A member of an object. -/
def dumpsMember (m : String × JsonValue) : List Char := dumpsText m.1 ++ ':' :: dumpsValue m.2

/-- The members in the order of their keys. -/
def sortKeys (payload : List (String × JsonValue)) : List (String × JsonValue) :=
  payload.insertionSort fun m m' => m.1 ≤ m'.1

/-- `json.dumps(payload, sort_keys=True, separators=(",", ":"))` -/
def dumps (payload : List (String × JsonValue)) : String :=
  String.ofList ('\x7b' :: (joined dumpsMember (sortKeys payload) ++ ['\x7d']))

theorem delimits_text : Delimits dumpsText := by
  intro s s' t t' h
  rw [dumpsText, dumpsText, List.cons_append, List.cons_append, List.append_assoc, List.append_assoc] at h
  obtain ⟨-, h⟩ := List.cons.inj h
  suffices hchars : s.toList = s'.toList ∧ t = t' from ⟨String.toList_inj.1 hchars.1, hchars.2⟩
  generalize s.toList = l, s'.toList = l' at h
  induction l generalizing l' with
  | nil =>
    cases l' with
    | nil => exact ⟨rfl, (List.cons.inj h).2⟩
    | cons d l' =>
      rw [List.flatMap_cons, List.append_assoc] at h
      exact absurd h.symm (escape_append_ne _ _ _)
  | cons c l ih =>
    cases l' with
    | nil =>
      rw [List.flatMap_cons, List.append_assoc] at h
      exact absurd h (escape_append_ne _ _ _)
    | cons d l' =>
      rw [List.flatMap_cons, List.flatMap_cons, List.append_assoc, List.append_assoc] at h
      obtain ⟨rfl, hrest⟩ := delimits_escape _ _ _ _ h
      obtain ⟨rfl, ht⟩ := ih l' hrest
      exact ⟨rfl, ht⟩

theorem delimits_value : Delimits dumpsValue := by
  intro v v' t t' h
  cases v <;> cases v'
  case text.text s s' =>
    obtain ⟨rfl, ht⟩ := delimits_text _ _ _ _ h
    exact ⟨rfl, ht⟩
  case text.texts s l => exact absurd (List.cons.inj h).1 (by decide)
  case texts.text l s => exact absurd (List.cons.inj h).1 (by decide)
  case texts.texts l l' =>
    rw [dumpsValue, dumpsValue, List.cons_append, List.cons_append, List.append_assoc, List.append_assoc] at h
    obtain ⟨-, h⟩ := List.cons.inj h
    obtain ⟨rfl, ht⟩ := joined_inj delimits_text (by decide) (fun s t t' heq => absurd (List.cons.inj heq).1 (by decide)) h
    exact ⟨rfl, ht⟩

theorem delimits_member : Delimits dumpsMember := by
  intro m m' t t' h
  rw [dumpsMember, dumpsMember, List.append_assoc, List.append_assoc] at h
  obtain ⟨hkey, h⟩ := delimits_text _ _ _ _ h
  obtain ⟨hvalue, ht⟩ := delimits_value _ _ _ _ (List.cons.inj h).2
  exact ⟨Prod.ext hkey hvalue, ht⟩

/-- **Key result**: the text of an object determines its members. -/
theorem dumps_inj {payload payload' : List (String × JsonValue)} :
    dumps payload = dumps payload' ↔ sortKeys payload = sortKeys payload' := by
  refine ⟨fun h => ?_, fun h => by rw [dumps, h, dumps]⟩
  obtain ⟨-, h⟩ := List.cons.inj (String.ofList_inj.1 h)
  exact (joined_inj delimits_member (by decide) (fun m t t' heq => absurd (List.cons.inj heq).1 (by decide)) h).1

end JLMirror.Foundations.JsonText
