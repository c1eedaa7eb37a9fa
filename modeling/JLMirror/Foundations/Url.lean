import JLMirror.Foundations.Utf8
import Mathlib.Data.List.TakeWhile

/-!
# A path through a URL

A client pastes a text into a URL, parses the URL and sends its path; a server decodes the path that it is sent.
RFC 3986 says what each of them does, and the two ends agree only on some texts.

## The model

* A URL is a list of characters. `requestPath` is what a client sends: the path of the URL ends at a question mark
  or a hash, its dot segments are removed, and what a path may not hold is escaped, except for what is an escape
  already.
* `unquote` is what a server makes of a path: escapes are octets, which are decoded with replacement.

## What is proved

* Each stage makes a text shorter if there is something for it to act on, and leaves it as it is if not
  (`length_cut`, `length_normalize`, `length_received`).
* **Key result** (`decoded_iff_plain`): a path comes out as it was put in if and only if it is plain.
-/

namespace JLMirror.Foundations.Url

open Utf8

/-! ### Escapes -/

/-- The value of a hexadecimal digit. -/
def hexValue (c : Char) : Option ℕ :=
  if '0' ≤ c ∧ c ≤ '9' then some (c.toNat - 48)
  else if 'A' ≤ c ∧ c ≤ 'F' then some (c.toNat - 55)
  else if 'a' ≤ c ∧ c ≤ 'f' then some (c.toNat - 87)
  else none

/-- The digit of a value. -/
def hexDigit (n : ℕ) : Char := Char.ofNat (if n < 10 then n + 48 else n + 55)

/-- The octet that two digits in front stand for. -/
def hexPair : List Char → Option UInt8
  | a :: b :: _ => (hexValue a).bind fun x => (hexValue b).map fun y => UInt8.ofNat (16 * x + y)
  | _ => none

/-- The escape of an octet. -/
def escape (x : UInt8) : List Char := ['%', hexDigit (x.toNat / 16), hexDigit (x.toNat % 16)]

/-- What a path holds as it is: unreserved characters, sub-delimiters, colon, at sign and slash. -/
def pathSafe (c : Char) : Bool :=
  ('a' ≤ c && c ≤ 'z') || ('A' ≤ c && c ≤ 'Z') || ('0' ≤ c && c ≤ '9') || c ∈ "-._~!$&'()*+,;=:@/".toList

/-- Escape what a path may not hold, and leave the escapes that are there. -/
def quote : List Char → List Char
  | [] => []
  | c :: rest =>
    (if pathSafe c ∨ (c = '%' ∧ (hexPair rest).isSome) then [c] else (String.utf8EncodeChar c).flatMap escape)
      ++ quote rest

/-- The octets of a path, after skipping some characters. -/
def octetsFrom : ℕ → List Char → List UInt8
  | _, [] => []
  | n + 1, _ :: rest => octetsFrom n rest
  | 0, c :: rest =>
    match if c = '%' then hexPair rest else none with
    | some x => x :: octetsFrom 2 rest
    | none => String.utf8EncodeChar c ++ octetsFrom 0 rest

/-- The octets that a path stands for. -/
def octets (l : List Char) : List UInt8 := octetsFrom 0 l

/-- The text that a path stands for. -/
def unquote (l : List Char) : List Char := decode (octets l)

/-- Some per cent sign is followed by two digits. -/
def hasEscape : List Char → Bool
  | [] => false
  | c :: rest => (c = '%' && (hexPair rest).isSome) || hasEscape rest

/-! ### Dot segments -/

/-- The segments, each after its slash. -/
def joined (segments : List (List Char)) : List Char := segments.flatMap ('/' :: ·)

/-- `.` or `..`. -/
def isDots (segment : List Char) : Bool := segment = ['.'] || segment = ['.', '.']

/-- Remove dot segments; `out` is what came before, the last one first. -/
def removeDots : List (List Char) → List (List Char) → List (List Char)
  | out, [] => out.reverse
  | out, [s] =>
    if s = ['.'] then ([] :: out).reverse
    else if s = ['.', '.'] then ([] :: out.tail).reverse
    else (s :: out).reverse
  | out, s :: t :: rest =>
    if s = ['.'] then removeDots out (t :: rest)
    else if s = ['.', '.'] then removeDots out.tail (t :: rest)
    else removeDots (s :: out) (t :: rest)

/-! ### The two ends -/

/-- Where the path of a URL ends. -/
def endsPath (c : Char) : Bool := c = '?' || c = '#'

/-- What of a URL is after its scheme and its authority. -/
def afterAuthority (url : List Char) : List Char :=
  ((url.dropWhile (· ≠ ':')).drop 3).dropWhile fun c => c ≠ '/' && !endsPath c

/-- Cut a text off where a path ends. -/
def cut (l : List Char) : List Char := l.takeWhile fun c => !endsPath c

/-- Remove the dot segments of a path that starts with a slash. -/
def normalize (path : List Char) : List Char := joined (removeDots [] ((path.drop 1).splitOn '/'))

/-- The path that a client sends for a URL. -/
def requestPath (url : List Char) : List Char := quote (normalize (cut (afterAuthority url)))

/-- The path as the server knows it. -/
def decodedPath (url : List Char) : List Char := unquote (requestPath url)

/-- A text that no stage changes. -/
structure Plain (path : List Char) : Prop where
  noEnd : path.any endsPath = false
  noEscape : hasEscape path = false
  noDots : ((path.drop 1).splitOn '/').any isDots = false

instance {path : List Char} : Decidable (Plain path) :=
  decidable_of_iff (path.any endsPath = false ∧ hasEscape path = false ∧
    ((path.drop 1).splitOn '/').any isDots = false)
    ⟨fun h => ⟨h.1, h.2.1, h.2.2⟩, fun h => ⟨h.1, h.2, h.3⟩⟩

/-! ### Quoting and reading back -/

theorem octetsFrom_eq (n : ℕ) (l : List Char) : octetsFrom n l = octets (l.drop n) := by
  induction l generalizing n with
  | nil => cases n <;> rfl
  | cons c rest ih =>
    cases n with
    | zero => rfl
    | succ n => exact ih n

variable {l : List Char}

theorem octets_escaped {x : UInt8} (h : hexPair l = some x) : octets ('%' :: l) = x :: octets (l.drop 2) := by
  rw [octets, octetsFrom, if_pos rfl, h, ← octetsFrom_eq]

variable {c : Char}

theorem octets_kept (h : c = '%' → hexPair l = none) : octets (c :: l) = String.utf8EncodeChar c ++ octets l := by
  have hnone : (if c = '%' then hexPair l else none) = none := by
    by_cases hc : c = '%'
    · rw [if_pos hc, h hc]
    · rw [if_neg hc]
  rw [octets, octetsFrom, hnone]
  rfl

theorem hexValue_hexDigit : ∀ n < 16, hexValue (hexDigit n) = some n := by decide

theorem hexPair_digits (x : UInt8) (l : List Char) :
    hexPair (hexDigit (x.toNat / 16) :: hexDigit (x.toNat % 16) :: l) = some x := by
  have hx := x.toNat_lt
  have hsum : 16 * (x.toNat / 16) + x.toNat % 16 = x.toNat := Nat.div_add_mod x.toNat 16
  rw [hexPair, hexValue_hexDigit _ (by omega), hexValue_hexDigit _ (by omega)]
  simp only [Option.bind_some, Option.map_some, hsum, UInt8.ofNat_toNat]

theorem octets_escape (x : UInt8) (l : List Char) : octets (escape x ++ l) = x :: octets l :=
  octets_escaped (hexPair_digits x l)

theorem octets_escapes (bytes : List UInt8) (l : List Char) :
    octets (bytes.flatMap escape ++ l) = bytes ++ octets l := by
  induction bytes with
  | nil => rfl
  | cons b rest ih => rw [List.flatMap_cons, List.append_assoc, octets_escape, ih, List.cons_append]

theorem hexValue_safe (h : (hexValue c).isSome = true) : pathSafe c = true := by
  unfold hexValue at h
  split_ifs at h with h₁ h₂ h₃
  · simp [pathSafe, h₁]
  · have hz : c ≤ 'Z' := Char.le_trans h₂.2 (by decide)
    simp [pathSafe, h₂.1, hz]
  · have hz : c ≤ 'z' := Char.le_trans h₃.2 (by decide)
    simp [pathSafe, h₃.1, hz]
  · cases h

theorem hexPair_none {a : Char} (h : hexValue a = none) (rest : List Char) : hexPair (a :: rest) = none := by
  cases rest with
  | nil => rfl
  | cons b rest => rw [hexPair, h, Option.bind_none]

theorem quote_digit (h : (hexValue c).isSome = true) (rest : List Char) : quote (c :: rest) = c :: quote rest := by
  rw [quote, if_pos (Or.inl (hexValue_safe h)), List.singleton_append]

/-- What is not a digit is quoted to something that does not start with one. -/
theorem quote_head (h : hexValue c = none) (rest : List Char) :
    ∃ d tail, quote (c :: rest) = d :: tail ∧ hexValue d = none := by
  rw [quote]
  split_ifs with hkept
  · exact ⟨c, quote rest, rfl, h⟩
  · obtain ⟨b, tail, he, -⟩ := encode_cons c
    exact ⟨'%', _, by rw [he, List.flatMap_cons, escape]; rfl, by decide⟩

/-- Quoting leaves two digits in front, and puts no digit there. -/
theorem hexPair_quote (l : List Char) : hexPair (quote l) = hexPair l := by
  match l with
  | [] => rfl
  | a :: rest =>
    cases ha : hexValue a with
    | none =>
      obtain ⟨d, tail, hq, hd⟩ := quote_head ha rest
      rw [hq, hexPair_none hd, hexPair_none ha]
    | some x =>
      rw [quote_digit (by rw [ha]; rfl)]
      match rest with
      | [] => rfl
      | b :: rest =>
        cases hb : hexValue b with
        | none =>
          obtain ⟨d, tail, hq, hd⟩ := quote_head hb rest
          rw [hq, hexPair, hexPair, hd, hb]
        | some y => rw [quote_digit (by rw [hb]; rfl), hexPair, hexPair]

theorem quote_drop {x : UInt8} (h : hexPair l = some x) : (quote l).drop 2 = quote (l.drop 2) := by
  match l with
  | [] => cases h
  | [a] => cases h
  | a :: b :: rest =>
    have ha : (hexValue a).isSome = true := by
      cases ha : hexValue a with
      | none => rw [hexPair_none ha] at h; cases h
      | some y => rfl
    have hb : (hexValue b).isSome = true := by
      cases hb : hexValue b with
      | none => rw [hexPair, hb] at h; simp at h
      | some y => rfl
    rw [quote_digit ha, quote_digit hb]
    rfl

/-- What a server reads of what a client quotes. -/
def received (l : List Char) : List Char := unquote (quote l)

variable {rest : List Char}

theorem received_escaped {x : UInt8} (h : hexPair rest = some x) :
    received ('%' :: rest) = decode (x :: octets (quote (rest.drop 2))) := by
  have hpair : hexPair (quote rest) = some x := by rw [hexPair_quote, h]
  have hquote : quote ('%' :: rest) = '%' :: quote rest := by
    rw [quote, if_pos (Or.inr ⟨rfl, by rw [h]; rfl⟩), List.singleton_append]
  rw [received, unquote, hquote, octets_escaped hpair, quote_drop h]

theorem received_kept (h : c = '%' → hexPair rest = none) : received (c :: rest) = c :: received rest := by
  have hoctets : octets (quote (c :: rest)) = String.utf8EncodeChar c ++ octets (quote rest) := by
    rw [quote]
    split_ifs with hkept
    · rw [List.singleton_append, octets_kept fun hc => by rw [hexPair_quote, h hc]]
    · rw [octets_escapes]
  rw [received, unquote, hoctets, decode_char, received, unquote]

theorem two_le_of_hexPair {x : UInt8} (h : hexPair rest = some x) : 2 ≤ rest.length := by
  rcases rest with _ | ⟨a, _ | ⟨b, rest⟩⟩
  · cases h
  · cases h
  · simp

/-- A text is read as it is if it holds no escape, and is shorter if it holds one. -/
theorem length_received (l : List Char) : (received l).length + (hasEscape l).toNat ≤ l.length := by
  match l with
  | [] => simp [hasEscape, received, quote, octets, octetsFrom, unquote, decode, decodeFrom]
  | c :: rest =>
    by_cases h : c = '%' → hexPair rest = none
    · have hesc : hasEscape (c :: rest) = hasEscape rest := by
        by_cases hc : c = '%'
        · simp [hasEscape, h hc]
        · simp [hasEscape, hc]
      have hle := length_received rest
      rw [received_kept h, hesc, List.length_cons, List.length_cons]
      omega
    · obtain ⟨rfl, hpair⟩ := Classical.not_imp.1 h
      obtain ⟨x, hx⟩ := Option.ne_none_iff_exists'.1 hpair
      have hle := length_received (rest.drop 2)
      have hfront := length_decode_cons x (octets (quote (rest.drop 2)))
      have htwo := two_le_of_hexPair hx
      have hbool := Bool.toNat_le (hasEscape ('%' :: rest))
      rw [received_escaped hx]
      rw [received, unquote, List.length_drop] at hle
      rw [List.length_cons]
      omega
termination_by l.length
decreasing_by all_goals simp only [List.length_cons, List.length_drop]; omega

theorem received_of_noEscape (h : hasEscape l = false) : received l = l := by
  induction l with
  | nil => rfl
  | cons c rest ih =>
    rw [hasEscape, Bool.or_eq_false_iff] at h
    have hkept : c = '%' → hexPair rest = none := by
      intro hc
      simpa [hc] using h.1
    rw [received_kept hkept, ih h.2]

/-! ### Dot segments and the end of the path -/

@[simp] theorem joined_cons (s : List Char) (rest : List (List Char)) :
    joined (s :: rest) = '/' :: (s ++ joined rest) := by
  rw [joined, List.flatMap_cons, List.cons_append, joined]

@[simp] theorem joined_nil : joined [] = [] := rfl

@[simp] theorem joined_append (a b : List (List Char)) : joined (a ++ b) = joined a ++ joined b := List.flatMap_append

@[simp] theorem length_joined_reverse (segments : List (List Char)) :
    (joined segments.reverse).length = (joined segments).length := by
  simp [joined, List.length_flatMap]

theorem length_joined_tail (segments : List (List Char)) :
    (joined segments.tail).length ≤ (joined segments).length := by
  cases segments with
  | nil => exact Nat.le_refl _
  | cons s rest =>
    simp only [List.tail_cons, joined_cons, List.length_cons, List.length_append]
    omega

theorem isDots_eq_false {s : List Char} (h : ¬s = ['.']) (h' : ¬s = ['.', '.']) : isDots s = false := by
  simp [isDots, h, h']

/-- Removing dot segments makes the path shorter if there are some. -/
theorem length_removeDots (out segments : List (List Char)) :
    (joined (removeDots out segments)).length + (segments.any isDots).toNat ≤
      (joined out).length + (joined segments).length := by
  fun_induction removeDots out segments with
  | case1 out => simp [joined]
  | case2 out =>
    simp [isDots]
  | case3 out hdot =>
    have htail := length_joined_tail out
    simp [isDots]
    omega
  | case4 out s hdot hdots =>
    simp [isDots_eq_false hdot hdots]
  | case5 out t rest ih =>
    have hbool := Bool.toNat_le ((['.'] :: t :: rest).any isDots)
    simp only [joined_cons, List.length_cons, List.length_append] at ih ⊢
    omega
  | case6 out t rest hdot ih =>
    have htail := length_joined_tail out
    have hbool := Bool.toNat_le ((['.', '.'] :: t :: rest).any isDots)
    simp only [joined_cons, List.length_cons, List.length_append] at ih ⊢
    omega
  | case7 out s t rest hdot hdots ih =>
    rw [List.any_cons, isDots_eq_false hdot hdots, Bool.false_or]
    simp only [joined_cons, List.length_cons, List.length_append] at ih ⊢
    omega

theorem removeDots_of_noDots {segments : List (List Char)} (h : segments.any isDots = false)
    (out : List (List Char)) : removeDots out segments = out.reverse ++ segments := by
  fun_induction removeDots out segments with
  | case1 out => simp
  | case2 out => simp [isDots] at h
  | case3 out hdot => simp [isDots] at h
  | case4 out s hdot hdots => simp
  | case5 out t rest ih => simp [isDots] at h
  | case6 out t rest hdot ih => simp [isDots] at h
  | case7 out s t rest hdot hdots ih =>
    rw [List.any_cons, Bool.or_eq_false_iff] at h
    rw [ih h.2, List.reverse_cons, List.append_assoc, List.singleton_append]

/-- The segments of a text, joined, are the text after a slash. -/
theorem joined_splitOn (l : List Char) : joined (l.splitOn '/') = '/' :: l := by
  have hjoin : ∀ segments : List (List Char), segments ≠ [] →
      joined segments = '/' :: ['/'].intercalate segments := by
    intro segments hne
    induction segments with
    | nil => exact absurd rfl hne
    | cons s rest ih =>
      cases rest with
      | nil => simp [joined]
      | cons t rest => rw [joined_cons, ih (by simp), List.intercalate_cons_cons]; simp
  rw [hjoin _ (List.splitOn_ne_nil '/' l), List.intercalate_splitOn]

theorem length_normalize (rest : List Char) :
    (normalize ('/' :: rest)).length + ((rest.splitOn '/').any isDots).toNat ≤ rest.length + 1 := by
  have hle := length_removeDots [] (rest.splitOn '/')
  rw [joined_splitOn, List.length_cons] at hle
  simpa [normalize, joined] using hle

theorem normalize_of_noDots (h : (rest.splitOn '/').any isDots = false) : normalize ('/' :: rest) = '/' :: rest := by
  rw [normalize, List.drop_one, List.tail_cons, removeDots_of_noDots h, List.reverse_nil, List.nil_append,
    joined_splitOn]

theorem length_cut (l : List Char) : (cut l).length + (l.any endsPath).toNat ≤ l.length := by
  induction l with
  | nil => simp [cut]
  | cons c rest ih =>
    rw [cut, List.takeWhile_cons, List.any_cons]
    cases hc : endsPath c with
    | true => simp
    | false =>
      simp only [Bool.not_false, if_true, Bool.false_or, List.length_cons]
      rw [cut] at ih
      omega

theorem cut_of_noEnd (h : l.any endsPath = false) : cut l = l := by
  rw [cut, List.takeWhile_eq_self_iff]
  intro c hc
  have hno := List.any_eq_false.1 h c hc
  simpa using hno

/-! ### Both ends together -/

/-- A URL's scheme and authority. -/
structure Origin where
  scheme : List Char
  authority : List Char
  noColon : ':' ∉ scheme
  noPath : ∀ c ∈ authority, c ≠ '/' ∧ endsPath c = false

/-- The URL of a path under an origin. -/
def Origin.url (origin : Origin) (path : List Char) : List Char :=
  origin.scheme ++ "://".toList ++ origin.authority ++ path

theorem afterAuthority_url (origin : Origin) (rest : List Char) :
    afterAuthority (origin.url ('/' :: rest)) = '/' :: rest := by
  have hscheme : ∀ c ∈ origin.scheme, decide (c ≠ ':') = true :=
    fun c hc => decide_eq_true fun h => origin.noColon (h ▸ hc)
  have hauthority : ∀ c ∈ origin.authority, (c ≠ '/' && !endsPath c : Bool) = true :=
    fun c hc => by simp [(origin.noPath c hc).1, (origin.noPath c hc).2]
  rw [afterAuthority, Origin.url, List.append_assoc, List.append_assoc, List.dropWhile_append_of_pos hscheme]
  change ((origin.authority ++ '/' :: rest).dropWhile _) = _
  rw [List.dropWhile_append_of_pos hauthority]
  rfl

/-- Each thing for a stage to act on makes the path shorter. -/
theorem length_decodedPath (origin : Origin) (rest : List Char) :
    (decodedPath (origin.url ('/' :: rest))).length + (rest.any endsPath).toNat +
        (((cut rest).splitOn '/').any isDots).toNat + (hasEscape (normalize ('/' :: cut rest))).toNat ≤
      rest.length + 1 := by
  have hcut : cut ('/' :: rest) = '/' :: cut rest := rfl
  have hreceived := length_received (normalize ('/' :: cut rest))
  have hnormalize := length_normalize (cut rest)
  have hend := length_cut rest
  rw [received] at hreceived
  rw [decodedPath, requestPath, afterAuthority_url, hcut]
  omega

/-- **Key result.** A path comes out as it was put in if and only if it is plain. -/
theorem decoded_iff_plain (origin : Origin) (rest : List Char) :
    decodedPath (origin.url ('/' :: rest)) = '/' :: rest ↔ Plain ('/' :: rest) := by
  constructor
  · intro h
    have hlen := length_decodedPath origin rest
    rw [h, List.length_cons] at hlen
    -- the path is as long as it was, so no stage had anything to act on
    have hend : rest.any endsPath = false := by
      rw [← Bool.toNat_eq_zero]
      omega
    have hdots : ((cut rest).splitOn '/').any isDots = false := by
      rw [← Bool.toNat_eq_zero]
      omega
    have hesc : hasEscape (normalize ('/' :: cut rest)) = false := by
      rw [← Bool.toNat_eq_zero]
      omega
    rw [normalize_of_noDots hdots, cut_of_noEnd hend] at hesc
    rw [cut_of_noEnd hend] at hdots
    exact ⟨hend, hesc, hdots⟩
  · intro h
    have hnoEnd : cut ('/' :: rest) = '/' :: rest := cut_of_noEnd h.noEnd
    have hnoDots : normalize ('/' :: rest) = '/' :: rest := normalize_of_noDots h.noDots
    rw [decodedPath, requestPath, afterAuthority_url, hnoEnd, hnoDots]
    exact received_of_noEscape h.noEscape

end JLMirror.Foundations.Url
