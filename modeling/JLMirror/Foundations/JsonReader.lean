import JLMirror.Foundations.JsonText

/-!
# Reading JSON

The texts and integers of a JSON document, as `json.loads` reads them. What `JsonText` writes is read as what it was.

## The model

* A text is first read as units of UTF-16, since that is what an escape stands for; then the halves of surrogate pairs are
  joined (`joinUnits`).
* A text with half of a pair is not read: there is no such character here.

## What is proved

* **Key result** (`readText_dumpsText`): a text that is written is read.
* `readInt_dumpsInt`: so is an integer, up to what is no part of a number.
-/

namespace JLMirror.Foundations.JsonText

/-! ### Texts -/

/-- The value of four hexadecimal digits. -/
def hexDigit (c : Char) : Option ℕ :=
  if '0' ≤ c ∧ c ≤ '9' then some (c.toNat - '0'.toNat)
  else if 'a' ≤ c ∧ c ≤ 'f' then some (c.toNat - 'a'.toNat + 10)
  else if 'A' ≤ c ∧ c ≤ 'F' then some (c.toNat - 'A'.toNat + 10)
  else none

def hexValue (a b c d : Char) : Option ℕ := do
  let a ← hexDigit a
  let b ← hexDigit b
  let c ← hexDigit c
  let d ← hexDigit d
  some (a * 4096 + b * 256 + c * 16 + d)

/-- The character of a short escape. -/
def unescape (x : Char) : Option Char :=
  if x ∈ ['"', '\\', '/', 'n', 'r', 't', 'b', 'f'] then some (shortEscaped x) else none

/-- The units of a text, up to the quote that ends it. -/
def readUnits : List Char → Option (List ℕ × List Char)
  | [] => none
  | '"' :: rest => some ([], rest)
  | '\\' :: 'u' :: a :: b :: c :: d :: rest => do
    let unit ← hexValue a b c d
    let (units, rest) ← readUnits rest
    some (unit :: units, rest)
  | '\\' :: x :: rest => do
    let c ← unescape x
    let (units, rest) ← readUnits rest
    some (c.toNat :: units, rest)
  | c :: rest =>
    if c < ' ' then none
    else do
      let (units, rest) ← readUnits rest
      some (c.toNat :: units, rest)

/-- A unit that is no half of a pair, or more than a unit. -/
def joinUnit (unit : ℕ) (rest : Option (List Char)) : Option (List Char) :=
  if 0xD800 ≤ unit ∧ unit < 0xE000 then none else rest.map (Char.ofNat unit :: ·)

/-- The characters of units. -/
def joinUnits : List ℕ → Option (List Char)
  | [] => some []
  | [unit] => joinUnit unit (some [])
  | high :: low :: rest =>
    if (0xD800 ≤ high ∧ high < 0xDC00) ∧ 0xDC00 ≤ low ∧ low < 0xE000 then
      (joinUnits rest).map (Char.ofNat (0x10000 + (high - 0xD800) * 0x400 + (low - 0xDC00)) :: ·)
    else joinUnit high (joinUnits (low :: rest))

/-- The text after its first quote. -/
def readText (t : List Char) : Option (String × List Char) := do
  let (units, rest) ← readUnits t
  let text ← joinUnits units
  some (String.ofList text, rest)

/-- The units that the escape of a character is read as. -/
def charUnits (c : Char) : List ℕ :=
  if c.toNat < 0x10000 then [c.toNat] else [0xD800 + (c.toNat - 0x10000) / 0x400, 0xDC00 + (c.toNat - 0x10000) % 0x400]

theorem hexDigit_digitChar {n : ℕ} (hn : n < 16) : hexDigit n.digitChar = some n := by
  have hall : ∀ n < 16, hexDigit n.digitChar = some n := by decide
  exact hall n hn

attribute [local simp] readUnits

theorem readUnits_escapeUnit {n : ℕ} (hn : n < 0x10000) (rest : List Char) :
    readUnits (escapeUnit n ++ rest) = (readUnits rest).map fun r => (n :: r.1, r.2) := by
  have hvalue : hexValue (n / 4096 % 16).digitChar (n / 256 % 16).digitChar (n / 16 % 16).digitChar (n % 16).digitChar =
      some n := by
    simp only [hexValue, hexDigit_digitChar (Nat.mod_lt _ (show 0 < 16 by decide))]
    exact congrArg some (by omega)
  simp only [escapeUnit, hex4, List.map_cons, List.map_nil, List.cons_append, List.nil_append, readUnits, hvalue]
  cases readUnits rest <;> rfl

theorem readUnits_short {x c : Char} (h : shortEscape c = some x) (rest : List Char) :
    readUnits ('\\' :: x :: rest) = (readUnits rest).map fun r => (c.toNat :: r.1, r.2) := by
  unfold shortEscape at h
  split at h <;> cases h <;> cases hrest : readUnits rest <;> simp [unescape, shortEscaped, hrest]

theorem readUnits_plain {c : Char} (hquote : c ≠ '"') (hslash : c ≠ '\\') (hspace : ' ' ≤ c) (rest : List Char) :
    readUnits (c :: rest) = (readUnits rest).map fun r => (c.toNat :: r.1, r.2) := by
  have hlt : ¬c < ' ' := fun h => absurd h (by simpa using hspace)
  rw [readUnits.eq_def]
  cases hrest : readUnits rest <;> split <;> simp_all

theorem ascii_of_escape {c : Char} (h : escape c = [c]) : ' ' ≤ c ∧ c ≤ '~' := by
  unfold escape at h
  split at h
  · cases h
  · split_ifs at h with hascii hplane
    · exact hascii
    · cases h
    · cases h

theorem readUnits_escape (c : Char) (rest : List Char) :
    readUnits (escape c ++ rest) = (readUnits rest).map fun r => (charUnits c ++ r.1, r.2) := by
  have hsmall : c.toNat < 0x10000 → charUnits c = [c.toNat] := fun h => if_pos h
  rcases escape_cases c with ⟨x, hx, hc⟩ | ⟨hquote, hslash, hc⟩ | ⟨hlt, -, hc⟩ | ⟨hle, hmax, hc⟩
  · have hlt : c.toNat < 0x10000 := by
      unfold shortEscape at hx
      split at hx <;> first | decide | cases hx
    rw [hc, hsmall hlt]
    exact readUnits_short hx rest
  · obtain ⟨hspace, htilde⟩ := ascii_of_escape hc
    have hle : c.toNat ≤ '~'.toNat := htilde
    rw [hc, hsmall (hle.trans_lt (by decide))]
    exact readUnits_plain hquote hslash hspace rest
  · rw [hc, hsmall hlt]
    exact readUnits_escapeUnit hlt rest
  · rw [hc, charUnits, if_neg (by omega), List.append_assoc, readUnits_escapeUnit (by omega),
      readUnits_escapeUnit (by omega)]
    cases readUnits rest <;> rfl

theorem readUnits_chars (l rest : List Char) :
    readUnits (l.flatMap escape ++ '"' :: rest) = some (l.flatMap charUnits, rest) := by
  induction l with
  | nil => rw [List.flatMap_nil, List.nil_append, readUnits, List.flatMap_nil]
  | cons c l ih => rw [List.flatMap_cons, List.append_assoc, readUnits_escape, ih, Option.map_some, List.flatMap_cons]

/-- The units of a character are joined to it. -/
theorem joinUnits_char (c : Char) (units : List ℕ) :
    joinUnits (charUnits c ++ units) = (joinUnits units).map (c :: ·) := by
  have hvalid : c.toNat < 0xD800 ∨ 0xDFFF < c.toNat ∧ c.toNat < 0x110000 := c.valid
  by_cases hlt : c.toNat < 0x10000
  · have hunit : ∀ rest, joinUnit c.toNat rest = rest.map (c :: ·) := fun rest => by
      rw [joinUnit, if_neg (by omega), Char.ofNat_toNat]
    rw [charUnits, if_pos hlt, List.singleton_append]
    cases units with
    | nil => exact hunit (some [])
    | cons unit units => rw [joinUnits, if_neg (by omega), hunit]
  · have hpair : 0x10000 + (0xD800 + (c.toNat - 0x10000) / 0x400 - 0xD800) * 0x400 +
        (0xDC00 + (c.toNat - 0x10000) % 0x400 - 0xDC00) = c.toNat := by omega
    rw [charUnits, if_neg hlt, List.cons_append, List.singleton_append, joinUnits, if_pos (by omega), hpair,
      Char.ofNat_toNat]

theorem joinUnits_chars (l : List Char) : joinUnits (l.flatMap charUnits) = some l := by
  induction l with
  | nil => rfl
  | cons c l ih => rw [List.flatMap_cons, joinUnits_char, ih, Option.map_some]

/-- **Key result**: a text that is written is read. -/
theorem readText_dumpsText (s : String) (rest : List Char) :
    ∃ t, dumpsText s ++ rest = '"' :: t ∧ readText t = some (s, rest) := by
  refine ⟨s.toList.flatMap escape ++ '"' :: rest, ?_, ?_⟩
  · rw [dumpsText, List.cons_append, List.append_assoc, List.singleton_append]
  · rw [readText, readUnits_chars]
    change (joinUnits (s.toList.flatMap charUnits)).bind _ = _
    rw [joinUnits_chars]
    exact congrArg some (Prod.ext String.ofList_toList rfl)

/-! ### Integers -/

/-- Digits without a sign, and no zero before others. -/
def readNat (t : List Char) : Option (ℕ × List Char) :=
  let digits := t.takeWhile Char.isDigit
  if digits = [] ∨ digits.length ≠ 1 ∧ digits.head? = some '0' then none
  else some (Nat.ofDigitChars 10 digits 0, t.dropWhile Char.isDigit)

/-- What may stand after a number. -/
def endsNumber (rest : List Char) : Bool := rest.head?.all fun c => !c.isDigit && c ∉ ['.', 'e', 'E']

/-- A number that is an integer. One that goes on with a fraction or an exponent is not read. -/
def readInt (t : List Char) : Option (ℤ × List Char) :=
  (if t.head? = some '-' then (readNat t.tail).map fun r => (-(r.1 : ℤ), r.2)
    else (readNat t).map fun r => ((r.1 : ℤ), r.2)).filter fun r => endsNumber r.2

/-- `repr` of an integer. -/
def dumpsInt (n : ℤ) : List Char := if n < 0 then '-' :: Nat.toDigits 10 n.natAbs else Nat.toDigits 10 n.natAbs

theorem head_toDigits (n : ℕ) (h : (Nat.toDigits 10 n).head? = some '0') : n = 0 := by
  induction n using Nat.strong_induction_on with
  | _ n ih =>
    by_cases hn : n < 10
    · rw [Nat.toDigits_of_lt_base hn, List.head?_cons, Option.some.injEq] at h
      exact digitChar_inj (by omega) (by decide) h
    · rw [Nat.toDigits_of_base_le (by omega) (by omega), List.head?_append_of_ne_nil _ Nat.toDigits_ne_nil] at h
      have hzero := ih (n / 10) (by omega) h
      omega

theorem readNat_toDigits (n : ℕ) {rest : List Char} (hrest : endsNumber rest = true) :
    readNat (Nat.toDigits 10 n ++ rest) = some (n, rest) := by
  have hdigits : ∀ c ∈ Nat.toDigits 10 n, c.isDigit = true := fun c hc =>
    Nat.isDigit_of_mem_toDigits (by omega) (by omega) hc
  have hstop : rest.takeWhile Char.isDigit = [] ∧ rest.dropWhile Char.isDigit = rest := by
    cases rest with
    | nil => exact ⟨rfl, rfl⟩
    | cons c rest =>
      have hc : c.isDigit = false := by
        simp only [endsNumber, List.head?_cons, Option.all_some, Bool.and_eq_true, Bool.not_eq_true'] at hrest
        exact hrest.1
      exact ⟨List.takeWhile_cons_of_neg (by simp [hc]), List.dropWhile_cons_of_neg (by simp [hc])⟩
  have hzero : ¬((Nat.toDigits 10 n).length ≠ 1 ∧ (Nat.toDigits 10 n).head? = some '0') := by
    rintro ⟨hlen, hhead⟩
    rw [head_toDigits n hhead] at hlen
    exact hlen rfl
  rw [readNat, List.takeWhile_append_of_pos hdigits, List.dropWhile_append_of_pos hdigits, hstop.1, hstop.2,
    List.append_nil, if_neg (not_or.2 ⟨Nat.toDigits_ne_nil, hzero⟩), Nat.ofDigitChars_ten_toDigits]

/-- An integer that is written is read. -/
theorem readInt_dumpsInt (n : ℤ) {rest : List Char} (hrest : endsNumber rest = true) :
    readInt (dumpsInt n ++ rest) = some (n, rest) := by
  rw [readInt, dumpsInt]
  by_cases hn : n < 0
  · rw [if_pos hn, List.cons_append, List.head?_cons, if_pos rfl, List.tail_cons, readNat_toDigits _ hrest, Option.map_some,
      Option.filter_some, if_pos hrest]
    exact congrArg some (Prod.ext (by omega) rfl)
  · have hhead : (Nat.toDigits 10 n.natAbs ++ rest).head? ≠ some '-' := by
      intro h
      rw [List.head?_append_of_ne_nil _ Nat.toDigits_ne_nil] at h
      have hdigit := Nat.isDigit_of_mem_toDigits (by omega) (by omega) (List.mem_of_head? h)
      cases hdigit
    rw [if_neg hn, if_neg hhead, readNat_toDigits _ hrest, Option.map_some, Option.filter_some, if_pos hrest]
    exact congrArg some (Prod.ext (by omega) rfl)

end JLMirror.Foundations.JsonText
