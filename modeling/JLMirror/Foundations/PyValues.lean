import JLMirror.Foundations.Strings
import Mathlib.Data.Nat.Digits.Defs

/-!
# JSON values in Python

What `json.loads` gives, and what `bool`, `str`, `int`, `in` and indexing make of it. A float is one of the three special
values, which `json.loads` makes of `Infinity`, `-Infinity`, `NaN` and of numerals that are too large, or a number. The
members of an object stand in the order of the dictionary, each key once.

The tables of the interpreter are parameters (`Tables`): how a text and a float are written by `repr`, and which characters
are decimal digits. `eachRow` is a loop over rows that ends at the first exception.
-/

namespace JLMirror.Foundations.Python

inductive PyFloat where
  | finite (q : ℚ)
  | infinite (negative : Bool)
  | nan
  deriving DecidableEq

inductive Json where
  | null
  | bool (b : Bool)
  | int (n : ℤ)
  | float (x : PyFloat)
  | str (s : String)
  | list (items : List Json)
  | dict (members : List (String × Json))

/-- An exception that Python raises by itself, with its text or its key. -/
inductive Builtin where
  | typeError (text : String)
  | valueError (text : String)
  | keyError (key : String)
  | attributeError (text : String)
  | overflowError (text : String)
  deriving DecidableEq

/-- The tables of the interpreter. -/
structure Tables where
  reprText : String → String
  reprFloat : PyFloat → String
  decimal : Char → Option ℕ

/-! ### Members -/

/-- `d.get(key)` of a dictionary. -/
def get? (members : List (String × Json)) (key : String) : Option Json := members.lookup key

/-- `d.get(key, default)` -/
def getD (members : List (String × Json)) (key : String) (default : Json) : Json := (get? members key).getD default

/-- `d[key]` -/
def item (members : List (String × Json)) (key : String) : Except Builtin Json :=
  match get? members key with
  | some v => .ok v
  | none => .error (.keyError key)

/-- `bool(v)` -/
def truthy : Json → Bool
  | .null => false
  | .bool b => b
  | .int n => n ≠ 0
  | .float x => x ≠ .finite 0
  | .str s => s ≠ ""
  | .list items => items.length ≠ 0
  | .dict members => members.length ≠ 0

/-- `v or w` -/
def orElse (v w : Json) : Json := if truthy v then v else w

/-- The name of the type of a value. -/
def typeName : Json → String
  | .null => "NoneType"
  | .bool _ => "bool"
  | .int _ => "int"
  | .float _ => "float"
  | .str _ => "str"
  | .list _ => "list"
  | .dict _ => "dict"

def Json.IsText (text : String) : Json → Prop
  | .str s => s = text
  | _ => False

instance (text : String) (v : Json) : Decidable (v.IsText text) := by
  unfold Json.IsText
  split <;> infer_instance

/-- `part in v` -/
def contains (part : String) : Json → Except Builtin Bool
  | .str s => .ok (part.toList <:+: s.toList)
  | .list items => .ok (items.any fun v => v.IsText part)
  | .dict members => .ok (get? members part).isSome
  | v => .error (.typeError s!"argument of type '{typeName v}' is not iterable")

/-- `v[key]`, of a text as the key. -/
def index (v : Json) (key : String) : Except Builtin Json :=
  match v with
  | .dict members => item members key
  | .str _ => .error (.typeError "string indices must be integers, not 'str'")
  | .list _ => .error (.typeError "list indices must be integers or slices, not str")
  | v => .error (.typeError s!"'{typeName v}' object is not subscriptable")

/-- `iter(v)`, as a list. -/
def iterate : Json → Except Builtin (List Json)
  | .str s => .ok (s.toList.map fun c => .str c.toString)
  | .list items => .ok items
  | .dict members => .ok (members.map fun m => .str m.1)
  | v => .error (.typeError s!"'{typeName v}' object is not iterable")

@[simp] theorem contains_dict (part : String) (members : List (String × Json)) :
    contains part (.dict members) = .ok (get? members part).isSome := rfl

theorem index_dict {members : List (String × Json)} {key : String} {v : Json} (h : get? members key = some v) :
    index (.dict members) key = .ok v := by
  simp only [index, item, h]

theorem index_other {v : Json} (key : String) (h : ∀ members, v ≠ .dict members) : ∃ text, index v key = .error (.typeError text) := by
  cases v with
  | dict members => exact absurd rfl (h members)
  | _ => exact ⟨_, rfl⟩

/-! ### Conversions -/

section Conversions

variable (t : Tables)

mutual

/-- `repr(v)` -/
def repr : Json → String
  | .null => "None"
  | .bool b => if b then "True" else "False"
  | .int n => toString n
  | .float x => t.reprFloat x
  | .str s => t.reprText s
  | .list items => "[" ++ ", ".intercalate (reprItems items) ++ "]"
  | .dict members => "\x7b" ++ ", ".intercalate (reprMembers members) ++ "\x7d"

def reprItems : List Json → List String
  | [] => []
  | v :: items => repr v :: reprItems items

def reprMembers : List (String × Json) → List String
  | [] => []
  | (key, v) :: members => (t.reprText key ++ ": " ++ repr v) :: reprMembers members

end

/-- `str(v)` -/
def str : Json → String
  | .str s => s
  | v => repr t v

/-- The digits of a numeral, of which single underscores may stand between two. -/
def digits : List Char → Option (List ℕ)
  | [] => none
  | [c] => (t.decimal c).map fun d => [d]
  | c :: '_' :: rest => do return (← t.decimal c) :: (← digits rest)
  | c :: rest => do return (← t.decimal c) :: (← digits rest)

/-- A numeral with its sign. -/
def signed : List Char → Bool × List Char
  | '-' :: rest => (true, rest)
  | '+' :: rest => (false, rest)
  | rest => (false, rest)

/-- `int(s)` of a text, which may have 4300 digits. -/
def intOfText (s : String) : Except Builtin ℤ :=
  let numeral := signed (strip s.toList)
  match digits t numeral.2 with
  | none => .error (.valueError s!"invalid literal for int() with base 10: {t.reprText s}")
  | some ds =>
    if 4300 < ds.length then
      .error (.valueError (s!"Exceeds the limit (4300 digits) for integer string conversion: value has {ds.length} digits; " ++
        "use sys.set_int_max_str_digits() to increase the limit"))
    else
      let n : ℤ := Nat.ofDigits 10 ds.reverse
      .ok (if numeral.1 then -n else n)

/-- `int(v)` -/
def int : Json → Except Builtin ℤ
  | .bool b => .ok (if b then 1 else 0)
  | .int n => .ok n
  | .float (.finite q) => .ok (q.num.tdiv q.den)
  | .float (.infinite _) => .error (.overflowError "cannot convert float infinity to integer")
  | .float .nan => .error (.valueError "cannot convert float NaN to integer")
  | .str s => intOfText t s
  | v => .error (.typeError
      s!"int() argument must be a string, a bytes-like object or a real number, not '{typeName v}'")

end Conversions

/-! ### Loops over rows -/

section Rows

variable {ε α β : Type*} {f : α → Except ε (List β)} {rows : List α} {e : ε}

/-- A loop that appends what each row gives, up to the first exception. -/
def eachRow (f : α → Except ε (List β)) : List α → Except ε (List β)
  | [] => .ok []
  | row :: rows => do return (← f row) ++ (← eachRow f rows)

@[simp] theorem eachRow_nil : eachRow f [] = .ok [] := rfl

theorem eachRow_cons_error {row : α} : eachRow f (row :: rows) = .error e ↔
    f row = .error e ∨ (∃ out, f row = .ok out) ∧ eachRow f rows = .error e := by
  rw [eachRow]
  cases f row with
  | error e' => simp [bind, Except.bind]
  | ok out => cases eachRow f rows <;> simp [bind, Except.bind, pure, Except.pure]

/-- An exception of the loop is that of the first row that raises one. -/
theorem eachRow_error_iff : eachRow f rows = .error e ↔ ∃ before row after, rows = before ++ row :: after ∧
    (∀ r ∈ before, ∃ out, f r = .ok out) ∧ f row = .error e := by
  induction rows with
  | nil => simp
  | cons first rows ih =>
    rw [eachRow_cons_error, ih]
    constructor
    · rintro (h | ⟨hfirst, before, row, after, rfl, hbefore, h⟩)
      · exact ⟨[], first, rows, rfl, by simp, h⟩
      · refine ⟨first :: before, row, after, rfl, fun r hr => ?_, h⟩
        rcases List.mem_cons.1 hr with rfl | hr
        · exact hfirst
        · exact hbefore r hr
    · rintro ⟨before, row, after, hrows, hbefore, h⟩
      cases before with
      | nil =>
        obtain ⟨rfl, rfl⟩ := List.cons.inj hrows
        exact .inl h
      | cons r before =>
        obtain ⟨rfl, rfl⟩ := List.cons.inj hrows
        exact .inr ⟨hbefore _ List.mem_cons_self, before, row, after, rfl,
          fun r hr => hbefore r (List.mem_cons_of_mem _ hr), h⟩

theorem eachRow_ok_iff : (∃ out, eachRow f rows = .ok out) ↔ ∀ r ∈ rows, ∃ out, f r = .ok out := by
  induction rows with
  | nil => simp
  | cons first rows ih =>
    rw [List.forall_mem_cons, ← ih, eachRow]
    cases f first <;> cases eachRow f rows <;> simp [bind, Except.bind, pure, Except.pure]

/-- A row of this kind is reached: all before it pass. -/
def Reaches (passes : α → Prop) (stops : α → Prop) (rows : List α) : Prop :=
  ∃ before row after, rows = before ++ row :: after ∧ (∀ r ∈ before, passes r) ∧ stops row

/-- What the rows do one by one says what the loop does. -/
theorem eachRow_reaches {passes stops : α → Prop} {bad : ε → Prop} (hpasses : ∀ r, (∃ out, f r = .ok out) ↔ passes r)
    (hstops : ∀ r, (∃ e, f r = .error e ∧ bad e) ↔ stops r) :
    (∃ e, eachRow f rows = .error e ∧ bad e) ↔ Reaches passes stops rows := by
  constructor
  · rintro ⟨e, he, hbad⟩
    obtain ⟨before, row, after, hrows, hbefore, hrow⟩ := eachRow_error_iff.1 he
    exact ⟨before, row, after, hrows, fun r hr => (hpasses r).1 (hbefore r hr), (hstops row).1 ⟨e, hrow, hbad⟩⟩
  · rintro ⟨before, row, after, hrows, hbefore, hrow⟩
    obtain ⟨e, he, hbad⟩ := (hstops row).2 hrow
    exact ⟨e, eachRow_error_iff.2 ⟨before, row, after, hrows, fun r hr => (hpasses r).2 (hbefore r hr), he⟩, hbad⟩

end Rows

end JLMirror.Foundations.Python
