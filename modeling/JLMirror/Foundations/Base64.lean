import Mathlib.Data.Nat.Notation
import Mathlib.Tactic.Basic

/-!
# Base64

`base64.urlsafe_b64encode` and `base64.urlsafe_b64decode`: octets as characters of an alphabet of 64, with `-` and `_`
as the last two, and padded with `=`.

## The model

* A group of three octets is four characters, of six bits each.
* `b64decode` is the decoder of `binascii`, which is not strict: it skips the characters that are not of the alphabet, and
  takes `+` and `/` as well. It ends where the padding completes a group.

## What is proved

* **Key result** (`b64decode_b64encode`): what is encoded is decoded.
-/

namespace JLMirror.Foundations.Base64

/-- The character of six bits. -/
def sextet (n : ℕ) : Char :=
  if n < 26 then Char.ofNat ('A'.toNat + n)
  else if n < 52 then Char.ofNat ('a'.toNat + (n - 26))
  else if n < 62 then Char.ofNat ('0'.toNat + (n - 52))
  else if n = 62 then '-'
  else '_'

/-- `urlsafe_b64encode` -/
def b64encode : List UInt8 → List Char
  | [] => []
  | [a] => [sextet (a.toNat / 4), sextet (a.toNat % 4 * 16), '=', '=']
  | [a, b] => [sextet (a.toNat / 4), sextet (a.toNat % 4 * 16 + b.toNat / 16), sextet (b.toNat % 16 * 4), '=']
  | a :: b :: c :: rest =>
    sextet (a.toNat / 4) :: sextet (a.toNat % 4 * 16 + b.toNat / 16) :: sextet (b.toNat % 16 * 4 + c.toNat / 64) ::
      sextet (c.toNat % 64) :: b64encode rest

/-- The six bits of a character. -/
def sextetOf (c : Char) : Option ℕ :=
  if 'A' ≤ c ∧ c ≤ 'Z' then some (c.toNat - 'A'.toNat)
  else if 'a' ≤ c ∧ c ≤ 'z' then some (c.toNat - 'a'.toNat + 26)
  else if '0' ≤ c ∧ c ≤ '9' then some (c.toNat - '0'.toNat + 52)
  else if c = '-' ∨ c = '+' then some 62
  else if c = '_' ∨ c = '/' then some 63
  else none

/-- Decode, after `quad` characters of a group have been read, whose last bits are `left`. -/
def decodeFrom (quad left pads : ℕ) : List Char → Option (List UInt8)
  | [] => if quad = 0 then some [] else none
  | c :: rest =>
    if c = '=' then
      if 2 ≤ quad then if 4 ≤ quad + (pads + 1) then some [] else decodeFrom quad left (pads + 1) rest
      else decodeFrom quad left pads rest
    else
      match sextetOf c, quad with
      | none, _ => decodeFrom quad left pads rest
      | some n, 0 => decodeFrom 1 n 0 rest
      | some n, 1 => (decodeFrom 2 (n % 16) 0 rest).map (UInt8.ofNat (left * 4 + n / 16) :: ·)
      | some n, 2 => (decodeFrom 3 (n % 4) 0 rest).map (UInt8.ofNat (left * 16 + n / 4) :: ·)
      | some n, _ => (decodeFrom 0 0 0 rest).map (UInt8.ofNat (left * 64 + n) :: ·)

/-- `urlsafe_b64decode`; `none` is a `binascii.Error`. -/
def b64decode (text : List Char) : Option (List UInt8) := decodeFrom 0 0 0 text

/-! ### Characters -/

theorem sextetOf_sextet {n : ℕ} (hn : n < 64) : sextetOf (sextet n) = some n := by
  have hall : ∀ n < 64, sextetOf (sextet n) = some n := by decide
  exact hall n hn

theorem sextet_ne_pad (n : ℕ) (hn : n < 64) : sextet n ≠ '=' := by
  intro h
  have hsome := sextetOf_sextet hn
  rw [h] at hsome
  cases hsome

section Groups

variable {n quad left pads : ℕ} {rest : List Char} {o : UInt8}

/-- Every digit goes on with the group that it is read in. -/
theorem decodeFrom_sextet (hn : n < 64) :
    decodeFrom quad left pads (sextet n :: rest) =
      match quad with
      | 0 => decodeFrom 1 n 0 rest
      | 1 => (decodeFrom 2 (n % 16) 0 rest).map (UInt8.ofNat (left * 4 + n / 16) :: ·)
      | 2 => (decodeFrom 3 (n % 4) 0 rest).map (UInt8.ofNat (left * 16 + n / 4) :: ·)
      | _ => (decodeFrom 0 0 0 rest).map (UInt8.ofNat (left * 64 + n) :: ·) := by
  rcases quad with _ | _ | _ | quad <;> simp only [decodeFrom, if_neg (sextet_ne_pad n hn), sextetOf_sextet hn]

theorem decodeFrom_first (hn : n < 64) : decodeFrom 0 left pads (sextet n :: rest) = decodeFrom 1 n 0 rest :=
  decodeFrom_sextet hn

theorem decodeFrom_second (hn : n < 64) (h : left * 4 + n / 16 = o.toNat) :
    decodeFrom 1 left pads (sextet n :: rest) = (decodeFrom 2 (n % 16) 0 rest).map (o :: ·) := by
  simp only [decodeFrom_sextet hn, h, UInt8.ofNat_toNat]

theorem decodeFrom_third (hn : n < 64) (h : left * 16 + n / 4 = o.toNat) :
    decodeFrom 2 left pads (sextet n :: rest) = (decodeFrom 3 (n % 4) 0 rest).map (o :: ·) := by
  simp only [decodeFrom_sextet hn, h, UInt8.ofNat_toNat]

theorem decodeFrom_fourth (hn : n < 64) (h : left * 64 + n = o.toNat) :
    decodeFrom 3 left pads (sextet n :: rest) = (decodeFrom 0 0 0 rest).map (o :: ·) := by
  simp only [decodeFrom_sextet hn, h, UInt8.ofNat_toNat]

end Groups

/-- **Key result**: what is encoded is decoded. -/
theorem b64decode_b64encode (bytes : List UInt8) : b64decode (b64encode bytes) = some bytes := by
  have hlt : ∀ x : UInt8, x.toNat < 256 := fun x => x.toNat_lt
  rw [b64decode]
  induction bytes using b64encode.induct with
  | case1 => rfl
  | case2 a =>
    have ha := hlt a
    rw [b64encode, decodeFrom_first (by omega), decodeFrom_second (o := a) (by omega) (by omega)]
    rfl
  | case3 a b =>
    have ha := hlt a
    have hb := hlt b
    rw [b64encode, decodeFrom_first (by omega), decodeFrom_second (o := a) (by omega) (by omega),
      decodeFrom_third (o := b) (by omega) (by omega)]
    rfl
  | case4 a b c rest ih =>
    have ha := hlt a
    have hb := hlt b
    have hc := hlt c
    rw [b64encode, decodeFrom_first (by omega), decodeFrom_second (o := a) (by omega) (by omega),
      decodeFrom_third (o := b) (by omega) (by omega), decodeFrom_fourth (o := c) (by omega) (by omega), ih]
    rfl

end JLMirror.Foundations.Base64
