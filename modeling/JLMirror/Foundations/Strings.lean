import Mathlib.Data.List.Infix

/-!
# Texts

`str.strip`, `str.lower` and `in` of a text, over its characters.
-/

namespace JLMirror.Foundations

/-- `str.isspace` -/
def isSpace (c : Char) : Bool :=
  let n := c.toNat
  (9 ≤ n ∧ n ≤ 13) ∨ (28 ≤ n ∧ n ≤ 32) ∨ n ∈ [133, 160, 5760, 8232, 8233, 8239, 8287, 12288] ∨ (8192 ≤ n ∧ n ≤ 8202)

/-- `str.strip()` -/
def strip (cs : List Char) : List Char := ((cs.dropWhile isSpace).reverse.dropWhile isSpace).reverse

/-- `part in text.lower()`, of a part in plain letters. -/
def inLower (part text : String) : Bool := part.toList <:+: text.toList.map Char.toLower

end JLMirror.Foundations
