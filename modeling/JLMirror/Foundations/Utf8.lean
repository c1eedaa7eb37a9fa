import Mathlib.Data.Nat.Notation
import Mathlib.Tactic.Basic

/-!
# Decoding with replacement

A decoder that never fails reads octets as UTF-8 and puts U+FFFD where they are not: one for the longest start
of a sequence that breaks off, and one for any other octet.

## The model

* `decode` reads a list of octets; a sequence that was read is skipped by count, so that the recursion is over
  the list.

## What is proved

* `decode_char`: the encoding of a character is read as the character, whatever follows.
* **Key result** (`length_decode_cons`): an octet in front adds one character at most.
-/

namespace JLMirror.Foundations.Utf8

/-- The character that a list of octets starts with. -/
def charAt (bytes : List UInt8) : Option Char := bytes.toByteArray.utf8DecodeChar? 0

/-- An octet that may follow in a sequence of UTF-8. -/
def continues (x : UInt8) : Bool := ¬x.IsUTF8FirstByte ∧ x < 0xC0

/-- The octets that may stand second after `b`, in a sequence of three or four. -/
def second (b x : UInt8) : Bool :=
  0xE0 ≤ b && b ≤ 0xF4 && continues x && (b ≠ 0xE0 || 0xA0 ≤ x) && (b ≠ 0xED || x < 0xA0) &&
    (b ≠ 0xF0 || 0x90 ≤ x) && (b ≠ 0xF4 || x < 0x90)

/-- How much of `rest` belongs to a sequence that `b` starts, where that sequence breaks off. -/
def broken (b : UInt8) : List UInt8 → ℕ
  | x :: y :: _ => if second b x then (if 0xF0 ≤ b ∧ continues y = true then 2 else 1) else 0
  | [x] => if second b x then 1 else 0
  | [] => 0

/-- Decode after skipping some octets. -/
def decodeFrom : ℕ → List UInt8 → List Char
  | _, [] => []
  | n + 1, _ :: rest => decodeFrom n rest
  | 0, b :: rest =>
    match charAt (b :: rest) with
    | some c => c :: decodeFrom (c.utf8Size - 1) rest
    | none => '\uFFFD' :: decodeFrom (broken b rest) rest

/-- Decode, with replacement. -/
def decode (bytes : List UInt8) : List Char := decodeFrom 0 bytes

theorem decodeFrom_eq (n : ℕ) (bytes : List UInt8) : decodeFrom n bytes = decode (bytes.drop n) := by
  induction bytes generalizing n with
  | nil => cases n <;> rfl
  | cons b rest ih =>
    cases n with
    | zero => rfl
    | succ n => exact ih n

/-! ### What a sequence is made of -/

theorem charAt_encode (c : Char) (rest : List UInt8) : charAt (String.utf8EncodeChar c ++ rest) = some c := by
  rw [charAt, List.toByteArray_append]
  exact ByteArray.utf8DecodeChar?_utf8EncodeChar_append

theorem charAt_some {bytes : List UInt8} {c : Char} (h : charAt bytes = some c) :
    ∃ rest, bytes = String.utf8EncodeChar c ++ rest := by
  obtain ⟨l, hl⟩ := ByteArray.exists_of_utf8DecodeChar?_eq_some h
  refine ⟨l.data.toList, ?_⟩
  have hdata := congrArg (fun b : ByteArray => b.data.toList) hl
  simpa using hdata

/-- The first octet of a character's encoding starts a sequence, and no other one does. -/
theorem encode_cons (c : Char) : ∃ b tail, String.utf8EncodeChar c = b :: tail ∧ b.IsUTF8FirstByte ∧
    (∀ x ∈ tail, ¬x.IsUTF8FirstByte) ∧ tail.length = c.utf8Size - 1 := by
  have hlen := String.length_utf8EncodeChar c
  have hfirst : ∀ i (hi : i < (String.utf8EncodeChar c).length),
      (String.utf8EncodeChar c)[i].IsUTF8FirstByte ↔ i = 0 := fun i hi => UInt8.isUTF8FirstByte_getElem_utf8EncodeChar
  cases he : String.utf8EncodeChar c with
  | nil =>
    have hpos := c.utf8Size_pos
    rw [he] at hlen
    simp only [List.length_nil] at hlen
    omega
  | cons b tail =>
    simp only [he] at hfirst hlen
    refine ⟨b, tail, rfl, (hfirst 0 (by simp)).2 rfl, fun x hx => ?_, by rw [← hlen]; simp⟩
    obtain ⟨i, hi, rfl⟩ := List.mem_iff_getElem.1 hx
    have hnot := hfirst (i + 1) (by simpa using hi)
    simpa using hnot

theorem charAt_eq_none {b : UInt8} {rest : List UInt8} (h : ¬b.IsUTF8FirstByte) : charAt (b :: rest) = none := by
  cases hc : charAt (b :: rest) with
  | none => rfl
  | some c =>
    obtain ⟨rest', hr⟩ := charAt_some hc
    obtain ⟨b', tail, he, hb', -⟩ := encode_cons c
    rw [he, List.cons_append] at hr
    exact absurd ((List.cons.inj hr).1 ▸ hb') h

theorem second_first {b x : UInt8} (h : second b x = true) : ¬x.IsUTF8FirstByte := by
  simp only [second, continues, Bool.and_eq_true, decide_eq_true_eq] at h
  exact h.1.1.1.1.2.1

theorem lead_first {b : UInt8} (hlow : 0xE0 ≤ b) (hhigh : b ≤ 0xF4) : b.IsUTF8FirstByte := by
  have hall : ∀ n < 256, 0xE0 ≤ UInt8.ofNat n → UInt8.ofNat n ≤ 0xF4 → (UInt8.ofNat n).IsUTF8FirstByte := by
    decide +kernel
  have hb := hall b.toNat b.toNat_lt
  rw [UInt8.ofNat_toNat] at hb
  exact hb hlow hhigh

theorem second_lead {b x : UInt8} (h : second b x = true) : b.IsUTF8FirstByte := by
  simp only [second, Bool.and_eq_true, decide_eq_true_eq] at h
  exact lead_first h.1.1.1.1.1.1 h.1.1.1.1.1.2

theorem broken_eq_zero {b : UInt8} (h : ¬b.IsUTF8FirstByte) (rest : List UInt8) : broken b rest = 0 := by
  have hno : ∀ x, second b x = false := fun x => Bool.not_eq_true _ ▸ fun hx => h (second_lead hx)
  match rest with
  | [] => rfl
  | [x] => simp [broken, hno]
  | x :: y :: _ => simp [broken, hno]

/-- What a broken sequence takes with it starts no sequence. -/
theorem broken_first (b : UInt8) (rest : List UInt8) : ∀ x ∈ rest.take (broken b rest), ¬x.IsUTF8FirstByte := by
  match rest with
  | [] => simp
  | [x] =>
    by_cases hx : second b x = true
    · simpa [broken, hx] using second_first hx
    · simp [broken, hx]
  | x :: y :: tail =>
    by_cases hx : second b x = true
    · by_cases hy : 0xF0 ≤ b ∧ continues y = true
      · have hfirst : ¬y.IsUTF8FirstByte := by
          have hc := hy.2
          simp only [continues, decide_eq_true_eq] at hc
          exact hc.1
        simp [broken, hx, hy, second_first hx, hfirst]
      · simpa [broken, hx, hy] using second_first hx
    · simp [broken, hx]

/-! ### What an octet in front adds -/

theorem decode_char (c : Char) (rest : List UInt8) : decode (String.utf8EncodeChar c ++ rest) = c :: decode rest := by
  have hc := charAt_encode c rest
  obtain ⟨b, tail, he, -, -, hlen⟩ := encode_cons c
  rw [he, List.cons_append] at hc ⊢
  rw [decode, decodeFrom, hc]
  simp only
  rw [decodeFrom_eq, ← hlen, List.drop_left]

/-- Octets that start no sequence are replaced one by one. -/
theorem length_decode_append {l : List UInt8} (h : ∀ x ∈ l, ¬x.IsUTF8FirstByte) (rest : List UInt8) :
    (decode (l ++ rest)).length = l.length + (decode rest).length := by
  induction l with
  | nil => simp
  | cons b l ih =>
    have hb := h b (by simp)
    have hcons : decode (b :: (l ++ rest)) = '\uFFFD' :: decode (l ++ rest) := by
      rw [decode, decodeFrom, charAt_eq_none hb, broken_eq_zero hb]
      rfl
    rw [List.cons_append, hcons, List.length_cons, List.length_cons, ih fun x hx => h x (by simp [hx])]
    omega

/-- **Key result.** An octet in front adds one character at most. -/
theorem length_decode_cons (b : UInt8) (rest : List UInt8) :
    (decode (b :: rest)).length ≤ 1 + (decode rest).length := by
  -- what is skipped after `b` would have been replaced one by one without it
  have hskip : ∀ n, (∀ x ∈ rest.take n, ¬x.IsUTF8FirstByte) →
      (decodeFrom n rest).length ≤ (decode rest).length := by
    intro n hn
    have hlen := length_decode_append hn (rest.drop n)
    rw [List.take_append_drop] at hlen
    rw [decodeFrom_eq]
    omega
  rw [decode, decodeFrom]
  cases hc : charAt (b :: rest) with
  | none =>
    have hle := hskip _ (broken_first b rest)
    simp only [List.length_cons]
    omega
  | some c =>
    obtain ⟨rest', hr⟩ := charAt_some hc
    obtain ⟨b', tail, he, -, htail, hlen⟩ := encode_cons c
    rw [he, List.cons_append] at hr
    obtain rfl := (List.cons.inj hr).2
    have hle := hskip (c.utf8Size - 1) (by rw [← hlen, List.take_left]; exact htail)
    simp only [List.length_cons]
    omega

end JLMirror.Foundations.Utf8
