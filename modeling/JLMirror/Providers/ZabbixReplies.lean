import JLMirror.Foundations.PyValues
import Mathlib.Data.List.Forall2

/-!
# What the adapter makes of a reply

`providers/zabbix.py` takes the replies of the provider apart: `_rpc` reads the body, `read_history`,
`read_active_problems`, `read_recovery_events` and `read_trigger_associations` read the rows of its result. Whatever the
provider answers, the adapter should give evidence or raise one of the Provider errors, and the worker should record the
failure of the operation.

## The model

* `rpc` is `_rpc` from the reply on, with its texts. The readers are loops over the rows (`eachRow`).
* The evidence classes are of the monitoring package (`Package`): they make evidence or reject by a `TypeError` or a
  `ValueError`. The package also reads a window and collects the problems (`Collector`): it turns a Provider error into a
  failed result and lets any other exception through.
* `historyTurn` and `problemTurn` are what the workers do for an operation. An exception that leaves them rolls back.

## What is proved

* `foreign_rpc`: a body that is no object mostly escapes, and so does an error that is no object.
* `foreign_historyRow` … `foreign_associationRow`: which rows raise another exception.
* **Key result** (`adapter_total_iff`): each reader is total on exactly the replies whose first row that is not read is
  refused by a Provider error; a turn is recorded if that is so, and the two calls that the worker makes by itself
  give evidence.

## Honest scope

The interpreter's own limits, on the depth of a value and on memory, are left out, and so are halves of surrogate pairs. The
request is in `Egress`.
-/

namespace JLMirror.Providers

open Foundations Foundations.Python

/-! ### Exceptions -/

/-- The Provider error classes. -/
inductive ProviderError where
  | authentication (text : String)
  | protocol (text : String)
  | unavailable (text : String)
  deriving DecidableEq

inductive Exception where
  | provider (e : ProviderError)
  | builtin (e : Builtin)
  deriving DecidableEq

/-- The exception is none of the Provider error classes. -/
def Exception.Foreign : Exception → Prop
  | .provider _ => False
  | .builtin _ => True

/-- `except (TypeError, ValueError)` does not catch the exception. -/
def Escaping : Builtin → Prop
  | .typeError _ | .valueError _ => False
  | _ => True

/-- A call raises an exception that is none of the Provider error classes. -/
def RaisesForeign {α : Type} (x : Except Exception α) : Prop := ∃ e, x = .error e ∧ e.Foreign

/-- The call returns or raises a Provider error. -/
def Total {α : Type} (x : Except Exception α) : Prop := ¬ RaisesForeign x

/-- A block raises what its handler does not catch. -/
def Escapes {α : Type} (x : Except Builtin α) : Prop := ∃ e, x = .error e ∧ Escaping e

section Handlers

variable {α β : Type}

/-- A block that no handler is around. -/
def bare : Except Builtin α → Except Exception α
  | .ok a => .ok a
  | .error e => .error (.builtin e)

/-- `try: …  except (TypeError, ValueError) as exc: raise ProviderProtocolError(…) from exc` -/
def normalizing (entry : String) : Except Builtin α → Except Exception α
  | .ok a => .ok a
  | .error (.typeError text) => .error (.provider (.protocol s!"{entry} failed normalization: {text}"))
  | .error (.valueError text) => .error (.provider (.protocol s!"{entry} failed normalization: {text}"))
  | .error e => .error (.builtin e)

@[simp] theorem foreign_ok (a : α) : ¬ RaisesForeign (.ok a : Except Exception α) := by
  rintro ⟨e, he, -⟩
  cases he

@[simp] theorem foreign_provider (e : ProviderError) : ¬ RaisesForeign (.error (.provider e) : Except Exception α) := by
  rintro ⟨e', he, hforeign⟩
  cases he
  exact hforeign

@[simp] theorem foreign_builtin (e : Builtin) : RaisesForeign (.error (.builtin e) : Except Exception α) :=
  ⟨_, rfl, trivial⟩

theorem foreign_bare (x : Except Builtin α) : RaisesForeign (bare x) ↔ ∃ e, x = .error e := by
  cases x <;> simp [bare]

theorem foreign_normalizing (entry : String) (x : Except Builtin α) : RaisesForeign (normalizing entry x) ↔ Escapes x := by
  cases x with
  | ok a => simp [normalizing, Escapes]
  | error e => cases e <;> simp [normalizing, Escapes, Escaping]

theorem normalizing_ok (entry : String) (x : Except Builtin α) :
    (∃ a, normalizing entry x = .ok a) ↔ ∃ a, x = .ok a := by
  cases x with
  | ok a => simp [normalizing]
  | error e => cases e <;> simp [normalizing]

theorem foreign_bind (x : Except Exception α) (g : α → Except Exception β) :
    RaisesForeign (x >>= g) ↔ RaisesForeign x ∨ ∃ a, x = .ok a ∧ RaisesForeign (g a) := by
  cases x with
  | ok a => simp [bind, Except.bind]
  | error e => simp [bind, Except.bind, RaisesForeign]

theorem escapes_bind (x : Except Builtin α) (g : α → Except Builtin β) :
    Escapes (x >>= g) ↔ Escapes x ∨ ∃ a, x = .ok a ∧ Escapes (g a) := by
  cases x with
  | ok a => simp [bind, Except.bind, Escapes]
  | error e => simp [bind, Except.bind, Escapes]

theorem bind_ok_iff {ε : Type} (x : Except ε α) (g : α → Except ε β) :
    (∃ b, (x >>= g) = .ok b) ↔ ∃ a, x = .ok a ∧ ∃ b, g a = .ok b := by
  cases x <;> simp [bind, Except.bind]

@[simp] theorem escapes_ok (a : α) : ¬ Escapes (.ok a : Except Builtin α) := by
  rintro ⟨e, he, -⟩
  cases he

end Handlers

/-! ### What the parts of a row raise -/

section Parts

variable (t : Tables)

/-- A float that no integer is near to. -/
def Infinite : Json → Prop
  | .float (.infinite _) => True
  | _ => False

/-- `int(v)` is a number. -/
def Numeral (v : Json) : Prop := ∃ n, int t v = .ok n

theorem escapes_item (m : List (String × Json)) (key : String) : Escapes (item m key) ↔ get? m key = none := by
  unfold item
  cases get? m key with
  | some v => simp
  | none => simp [Escapes, Escaping]

theorem item_ok (m : List (String × Json)) (key : String) (v : Json) : item m key = .ok v ↔ get? m key = some v := by
  unfold item
  cases get? m key <;> simp

theorem escapes_intOfText (s : String) : ¬ Escapes (intOfText t s) := by
  rintro ⟨e, he, hescaping⟩
  simp only [intOfText] at he
  split at he
  · cases he
    exact hescaping
  · split at he <;> cases he
    exact hescaping

theorem escapes_int (v : Json) : Escapes (int t v) ↔ Infinite v := by
  cases v with
  | float x => cases x <;> simp [int, Infinite, Escapes, Escaping]
  | str s => simp [int, Infinite, escapes_intOfText]
  | _ => simp [int, Infinite, Escapes, Escaping]

theorem escapes_iterate (v : Json) : ¬ Escapes (iterate v) := by
  cases v <;> simp [iterate, Escapes, Escaping]

end Parts

/-! ### `_rpc` -/

/-- What comes of the POST. -/
inductive Reply where
  | timedOut (text : String)
  | unreachable (text : String)
  /-- The status and the value of the body, if it is JSON. -/
  | response (status : ℕ) (body : Option Json)

section Rpc

variable (t : Tables)

/-- `str(err.get("data") or err.get("message") or "")` -/
def errorText (err : List (String × Json)) : String :=
  str t (orElse (orElse (getD err "data" .null) (getD err "message" .null)) (.str ""))

/-- What is raised for an error of the provider. -/
def raiseError (err : Json) : Exception :=
  match err with
  | .dict members =>
    let msg := errorText t members
    if inLower "not authorized" msg ∨ inLower "session" msg then .provider (.authentication s!"zabbix auth error: {msg}")
    else .provider (.protocol s!"zabbix rpc error: {msg}")
  | err => .builtin (.attributeError s!"'{typeName err}' object has no attribute 'get'")

/-- `"error" in body and body["error"]` -/
def errorOf (body : Json) : Except Builtin (Option Json) := do
  if ← contains "error" body then
    let err ← index body "error"
    return if truthy err then some err else none
  return none

/-- The result of a body. -/
def readBody (body : Json) : Except Exception Json := do
  match ← bare (errorOf body) with
  | some err => .error (raiseError t err)
  | none =>
    if ← bare (contains "result" body) then bare (index body "result")
    else .error (.provider (.protocol "zabbix response missing result"))

def rpc : Reply → Except Exception Json
  | .timedOut text => .error (.provider (.unavailable s!"zabbix timeout: {text}"))
  | .unreachable text => .error (.provider (.unavailable s!"zabbix unreachable: {text}"))
  | .response status body =>
    if status = 401 ∨ status = 403 then .error (.provider (.authentication "zabbix authentication rejected"))
    else if status ≠ 200 then .error (.provider (.unavailable s!"zabbix HTTP {status}"))
    else match body with
      | none => .error (.provider (.protocol "zabbix non-JSON response"))
      | some body => readBody t body

/-- A body that `_rpc` reads: an object whose error is an object or counts as none, or another value that has the two words
in it nowhere. -/
def BodyFits : Json → Prop
  | .dict members => ∀ err, get? members "error" = some err → truthy err → ∃ m, err = .dict m
  | .list items => (∀ v ∈ items, ¬ v.IsText "error") ∧ ∀ v ∈ items, ¬ v.IsText "result"
  | .str s => ¬ "error".toList <:+: s.toList ∧ ¬ "result".toList <:+: s.toList
  | _ => False

/-- A body with a result. -/
def HasResult (body result : Json) : Prop := ∃ members, body = .dict members ∧
  (∀ err, get? members "error" = some err → ¬ truthy err) ∧ get? members "result" = some result

theorem rpc_ok (body : Json) : rpc t (.response 200 (some body)) = readBody t body := by
  simp only [rpc]
  rw [if_neg (by decide), if_neg (by decide)]

theorem raiseError_foreign (err : Json) : (raiseError t err).Foreign ↔ ¬ ∃ m, err = .dict m := by
  cases err with
  | dict members =>
    simp only [raiseError, Json.dict.injEq, exists_eq', not_true_eq_false, iff_false]
    split <;> exact not_false
  | _ => simp [raiseError, Exception.Foreign]

theorem errorOf_dict (members : List (String × Json)) :
    errorOf (.dict members) = .ok ((get? members "error").filter truthy) := by
  rw [errorOf, contains_dict]
  cases herr : get? members "error" with
  | none => rfl
  | some err =>
    simp only [Option.isSome_some, bind, Except.bind, if_true, index_dict herr]
    cases htruthy : truthy err <;> simp [pure, Except.pure, htruthy, Option.filter]

theorem readBody_dict (members : List (String × Json)) : readBody t (.dict members) =
    match (get? members "error").filter truthy, get? members "result" with
    | some err, _ => .error (raiseError t err)
    | none, some result => .ok result
    | none, none => .error (.provider (.protocol "zabbix response missing result")) := by
  rw [readBody, errorOf_dict, contains_dict]
  cases (get? members "error").filter truthy with
  | some err => rfl
  | none =>
    cases hresult : get? members "result" with
    | none => rfl
    | some result => simp [bare, bind, Except.bind, index_dict hresult]

/-- A value that is no object escapes once one of the two words is found in it, or cannot be looked for. -/
theorem readBody_other {body : Json} (hbody : ∀ members, body ≠ .dict members) :
    RaisesForeign (readBody t body) ↔ contains "error" body ≠ .ok false ∨ contains "result" body ≠ .ok false := by
  obtain ⟨text, hindex⟩ := index_other "error" hbody
  obtain ⟨text', hindex'⟩ := index_other "result" hbody
  rw [readBody, errorOf, hindex, hindex']
  cases herror : contains "error" body with
  | error e => simp [bare, bind, Except.bind]
  | ok found =>
    cases found with
    | true => simp [bare, bind, Except.bind]
    | false =>
      cases hresult : contains "result" body with
      | error e => simp [bare, bind, Except.bind, pure, Except.pure]
      | ok found => cases found <;> simp [bare, bind, Except.bind, pure, Except.pure]

theorem readBody_other_error {body result : Json} (hbody : ∀ members, body ≠ .dict members) :
    readBody t body ≠ .ok result := by
  obtain ⟨text, hindex⟩ := index_other "error" hbody
  obtain ⟨text', hindex'⟩ := index_other "result" hbody
  rw [readBody, errorOf, hindex, hindex']
  cases contains "error" body with
  | error e => simp [bare, bind, Except.bind]
  | ok found =>
    cases found with
    | true => simp [bare, bind, Except.bind]
    | false =>
      cases contains "result" body with
      | error e => simp [bare, bind, Except.bind, pure, Except.pure]
      | ok found => cases found <;> simp [bare, bind, Except.bind, pure, Except.pure]

theorem rpc_result (body result : Json) : rpc t (.response 200 (some body)) = .ok result ↔ HasResult body result := by
  rw [rpc_ok]
  by_cases hbody : ∃ members, body = .dict members
  · obtain ⟨members, rfl⟩ := hbody
    rw [readBody_dict]
    cases herr : get? members "error" with
    | none => cases hresult : get? members "result" <;> simp [HasResult, herr, hresult]
    | some err =>
      cases htruthy : truthy err <;> cases hresult : get? members "result" <;>
        simp [HasResult, herr, hresult, htruthy, Option.filter]
  · rw [not_exists] at hbody
    refine iff_of_false (readBody_other_error t hbody) ?_
    rintro ⟨members, hmembers, -⟩
    exact hbody members hmembers

/-- What escapes from `_rpc`. -/
theorem foreign_rpc (body : Json) : RaisesForeign (rpc t (.response 200 (some body))) ↔ ¬ BodyFits body := by
  rw [rpc_ok]
  cases body with
  | dict members =>
    rw [readBody_dict]
    cases herr : get? members "error" with
    | none => cases hresult : get? members "result" <;> simp [BodyFits, herr]
    | some err =>
      cases htruthy : truthy err with
      | false => cases hresult : get? members "result" <;> simp [BodyFits, herr, htruthy, Option.filter]
      | true =>
        have hforeign : RaisesForeign (.error (raiseError t err) : Except Exception Json) ↔ ¬ ∃ m, err = .dict m := by
          rw [← raiseError_foreign t]
          simp [RaisesForeign]
        simpa [BodyFits, herr, htruthy, Option.filter] using hforeign
  | str s =>
    rw [readBody_other t (by simp)]
    simp only [BodyFits, contains, ne_eq, Except.ok.injEq, decide_eq_false_iff_not, ← not_and_or]
  | list items =>
    rw [readBody_other t (by simp)]
    simp only [BodyFits, contains, ne_eq, Except.ok.injEq, List.any_eq_false, decide_eq_true_eq, ← not_and_or]
  | _ =>
    rw [readBody_other t (by simp)]
    simp [BodyFits, contains]

end Rpc

/-! ### The evidence classes -/

/-- How an evidence class rejects its values. -/
inductive Rejection where
  | typeError (text : String)
  | valueError (text : String)

/-- The evidence classes of the package. -/
structure Package (History Problem Recovery Tag : Type) where
  /-- `itemid`, `clock`, `ns`, `raw_value` -/
  history : String → ℤ → ℤ → String → Except Rejection History
  /-- `eventid`, `objectid`, `clock`, `name`, `severity`, `acknowledged`, `tags` -/
  problem : String → String → ℤ → String → ℤ → Bool → List Tag → Except Rejection Problem
  /-- `problem_eventid`, `recovery_eventid`, `clock` -/
  recovery : String → String → ℤ → Except Rejection Recovery
  /-- `key`, `value` -/
  tag : String → String → Except Rejection Tag

/-- The evidence, or what the class raises. -/
def made {E : Type} : Except Rejection E → Except Builtin E
  | .ok e => .ok e
  | .error (.typeError text) => .error (.typeError text)
  | .error (.valueError text) => .error (.valueError text)

theorem escapes_made {E : Type} (x : Except Rejection E) : ¬ Escapes (made x) := by
  cases x with
  | ok e => exact escapes_ok e
  | error r => cases r <;> simp [made, Escapes, Escaping]

theorem made_ok {E : Type} (x : Except Rejection E) : (∃ e, made x = .ok e) ↔ ∃ e, x = .ok e := by
  cases x with
  | ok e => simp [made]
  | error r => cases r <;> simp [made]

/-! ### The readers -/

section Readers

variable (t : Tables) {History Problem Recovery Tag : Type} (pkg : Package History Problem Recovery Tag)

/-- The rows of a reply, each read by itself. -/
def readRows {α : Type} (notList : String) (row : Json → Except Exception (List α)) (reply : Reply) :
    Except Exception (List α) := do
  match ← rpc t reply with
  | .list rows => eachRow row rows
  | _ => .error (.provider (.protocol notList))

def malformed {α : Type} (text : String) : Except Exception α := .error (.provider (.protocol text))

/-- An entry of `history.get`. -/
def historyRow : Json → Except Exception (List History)
  | .dict m =>
    if (get? m "itemid").isSome then
      normalizing "history.get entry" do
        let itemid ← item m "itemid"
        let clock ← int t (← item m "clock")
        let ns ← int t (getD m "ns" (.int 0))
        return [← made (pkg.history (str t itemid) clock ns (str t (getD m "value" (.str ""))))]
    else malformed "history.get malformed entry"
  | _ => malformed "history.get malformed entry"

def read_history : Reply → Except Exception (List History) :=
  readRows t "history.get result is not a list" (historyRow t pkg)

/-- A tag of a problem, if it has a name. -/
def tagOf : Json → Except Builtin (List Tag)
  | .dict m =>
    if truthy (getD m "tag" .null) then
      return [← made (pkg.tag (str t (getD m "tag" (.str ""))) (str t (getD m "value" (.str ""))))]
    else .ok []
  | _ => .ok []

/-- The tags of a problem. -/
def tagsOf (m : List (String × Json)) : Except Builtin (List Tag) := do
  eachRow (tagOf t pkg) (← iterate (orElse (getD m "tags" .null) (.list [])))

/-- An entry of `problem.get`; a problem that has recovered is passed over. -/
def problemRow : Json → Except Exception (List Problem)
  | .dict m =>
    if (get? m "eventid").isSome then
      if str t (getD m "r_eventid" (.str "0")) ≠ "0" then .ok []
      else normalizing "problem.get entry" do
        let tags ← tagsOf t pkg m
        let eventid ← item m "eventid"
        let objectid ← item m "objectid"
        let clock ← int t (← item m "clock")
        let severity ← int t (getD m "severity" (.int 0))
        return [← made (pkg.problem (str t eventid) (str t objectid) clock (str t (getD m "name" (.str ""))) severity
          (str t (getD m "acknowledged" (.str "0")) = "1") tags)]
    else malformed "problem.get malformed entry"
  | _ => malformed "problem.get malformed entry"

/-- `l[:n]` -/
def upTo {α : Type} (l : List α) (n : ℤ) : List α := if 0 ≤ n then l.take n.toNat else l.take (l.length + n).toNat

/-- The problems, and whether these are all. -/
def read_active_problems (max_rows : ℤ) (reply : Reply) : Except Exception (List Problem × Bool) := do
  match ← rpc t reply with
  | .list rows => return (← eachRow (problemRow t pkg) (upTo rows max_rows), rows.length ≤ max_rows)
  | _ => malformed "problem.get result is not a list"

/-- An entry for a known problem; one that is active is passed over. -/
def recoveryRow : Json → Except Exception (List Recovery)
  | .dict m =>
    if (get? m "eventid").isSome then
      if str t (getD m "r_eventid" (.str "0")) = "0" then .ok []
      else normalizing "recovery entry" do
        let eventid ← item m "eventid"
        let clock ← int t (getD m "r_clock" (.int 0))
        return [← made (pkg.recovery (str t eventid) (str t (getD m "r_eventid" (.str "0"))) clock)]
    else malformed "problem.get recovery malformed"
  | _ => malformed "problem.get recovery malformed"

def read_recovery_events (problem_eventids : List String) (reply : Reply) : Except Exception (List Recovery) :=
  if problem_eventids = [] then .ok [] else readRows t "problem.get recovery result invalid" (recoveryRow t pkg) reply

/-- The pairs of a trigger with its hosts, which no handler is around. -/
def associationRow : Json → Except Exception (List (String × String))
  | .dict m =>
    if (get? m "triggerid").isSome then
      let hosts := orElse (getD m "hosts" .null) (.list [])
      if truthy hosts then
        bare do
          eachRow (fun host => do return [(str t (← item m "triggerid"), str t (← index host "hostid"))]) (← iterate hosts)
      else .ok []
    else malformed "trigger.get malformed entry"
  | _ => malformed "trigger.get malformed entry"

def read_trigger_associations : Reply → Except Exception (List (String × String)) :=
  readRows t "trigger.get result is not a list" (associationRow t)

end Readers

/-! ### Which rows escape -/

section Rows

variable (t : Tables) {History Problem Recovery Tag : Type} (pkg : Package History Problem Recovery Tag)

/-- A time that is missing or infinite. -/
def NoTime (m : List (String × Json)) (key : String) : Prop := ∀ v, get? m key = some v → Infinite v

/-- A time that is a number. -/
def HasTime (m : List (String × Json)) (key : String) : Prop := ∃ v, get? m key = some v ∧ Numeral t v

/-- An entry with an infinite time or none, or with a time and an infinite rest. -/
def HistoryEscapes : Json → Prop
  | .dict m => (get? m "itemid").isSome ∧
    (NoTime m "clock" ∨ HasTime t m "clock" ∧ Infinite (getD m "ns" (.int 0)))
  | _ => False

/-- An entry of which evidence is made. -/
def HistoryPasses : Json → Prop
  | .dict m => ∃ itemid clock c n, get? m "itemid" = some itemid ∧ get? m "clock" = some clock ∧ int t clock = .ok c ∧
    int t (getD m "ns" (.int 0)) = .ok n ∧ ∃ e, pkg.history (str t itemid) c n (str t (getD m "value" (.str ""))) = .ok e
  | _ => False

/-- The members of a tag that has a name. -/
def named : Json → Option (List (String × Json))
  | .dict m => if truthy (getD m "tag" .null) then some m else none
  | _ => none

/-- The tags that are made of a problem. -/
def TagsMade (m : List (String × Json)) (tags : List Tag) : Prop :=
  ∃ items, iterate (orElse (getD m "tags" .null) (.list [])) = .ok items ∧
    List.Forall₂ (fun m' tag => pkg.tag (str t (getD m' "tag" (.str ""))) (str t (getD m' "value" (.str ""))) = .ok tag)
      (items.filterMap named) tags

/-- The problem has recovered. -/
def Recovered (m : List (String × Json)) : Prop := str t (getD m "r_eventid" (.str "0")) ≠ "0"

/-- An active problem with good tags and without an object, or with an infinite time or none, or with a time and an
infinite severity. -/
def ProblemEscapes : Json → Prop
  | .dict m => (get? m "eventid").isSome ∧ ¬ Recovered t m ∧ (∃ tags, TagsMade t pkg m tags) ∧
    (get? m "objectid" = none ∨ NoTime m "clock" ∨ HasTime t m "clock" ∧ Infinite (getD m "severity" (.int 0)))
  | _ => False

/-- An entry that has recovered, or of which evidence is made. -/
def ProblemPasses : Json → Prop
  | .dict m => ∃ eventid, get? m "eventid" = some eventid ∧ (Recovered t m ∨ ∃ tags objectid clock c s,
    TagsMade t pkg m tags ∧ get? m "objectid" = some objectid ∧ get? m "clock" = some clock ∧ int t clock = .ok c ∧
    int t (getD m "severity" (.int 0)) = .ok s ∧
    ∃ e, pkg.problem (str t eventid) (str t objectid) c (str t (getD m "name" (.str ""))) s
      (str t (getD m "acknowledged" (.str "0")) = "1") tags = .ok e)
  | _ => False

/-- A recovery at an infinite time. -/
def RecoveryEscapes : Json → Prop
  | .dict m => (get? m "eventid").isSome ∧ Recovered t m ∧ Infinite (getD m "r_clock" (.int 0))
  | _ => False

/-- An entry that is active, or of which evidence is made. -/
def RecoveryPasses : Json → Prop
  | .dict m => ∃ eventid, get? m "eventid" = some eventid ∧ (Recovered t m → ∃ c, int t (getD m "r_clock" (.int 0)) = .ok c ∧
    ∃ e, pkg.recovery (str t eventid) (str t (getD m "r_eventid" (.str "0"))) c = .ok e)
  | _ => False

/-- No hosts, or a list of objects with an id. -/
def HostsFit (hosts : Json) : Prop :=
  truthy hosts → ∃ items, hosts = .list items ∧ ∀ host ∈ items, ∃ m, host = .dict m ∧ (get? m "hostid").isSome

/-- A trigger with other hosts. -/
def AssociationEscapes : Json → Prop
  | .dict m => (get? m "triggerid").isSome ∧ ¬ HostsFit (getD m "hosts" .null)
  | _ => False

/-- A trigger with its hosts. -/
def AssociationPasses : Json → Prop
  | .dict m => (get? m "triggerid").isSome ∧ HostsFit (getD m "hosts" .null)
  | _ => False

theorem foreign_malformed {α : Type} (text : String) : ¬ RaisesForeign (malformed text : Except Exception α) :=
  foreign_provider _

theorem malformed_ok {α : Type} (text : String) : ¬ ∃ out, (malformed text : Except Exception α) = .ok out := by
  rintro ⟨out, hout⟩
  cases hout

theorem escapes_last {E : Type} (x : Except Rejection E) : ¬ Escapes (made x >>= fun e => pure [e]) := by
  rw [escapes_bind, not_or]
  refine ⟨escapes_made x, ?_⟩
  rintro ⟨e, -, he⟩
  exact escapes_ok _ he

theorem last_ok {E : Type} (x : Except Rejection E) :
    (∃ e, made x = .ok e ∧ ∃ out, (pure [e] : Except Builtin (List E)) = .ok out) ↔ ∃ e, x = .ok e := by
  rw [← made_ok]
  exact ⟨fun ⟨e, he, _⟩ => ⟨e, he⟩, fun ⟨e, he⟩ => ⟨e, he, [e], rfl⟩⟩

/-- What a block raises that reads a time, then another number, and then makes evidence of the two. -/
theorem escapes_times {α : Type} (m : List (String × Json)) (rest : Json) (g : ℤ → ℤ → Except Builtin α)
    (hg : ∀ c n, ¬ Escapes (g c n)) :
    Escapes (do let c ← int t (← item m "clock"); let n ← int t rest; g c n) ↔
      NoTime m "clock" ∨ HasTime t m "clock" ∧ Infinite rest := by
  simp only [escapes_bind, escapes_item, item_ok, escapes_int, hg, and_false, exists_false, or_false]
  cases hclock : get? m "clock" <;> simp [NoTime, HasTime, Numeral, hclock]

theorem foreign_historyRow (row : Json) : RaisesForeign (historyRow t pkg row) ↔ HistoryEscapes t row := by
  cases row with
  | dict m =>
    rw [historyRow]
    split
    next hitemid =>
      obtain ⟨itemid, heq⟩ := Option.isSome_iff_exists.1 hitemid
      rw [foreign_normalizing, HistoryEscapes, (item_ok m _ _).2 heq, and_iff_right hitemid]
      exact escapes_times t m _ _ fun c n => escapes_last _
    next hitemid => exact iff_of_false (foreign_malformed _) fun h => hitemid h.1
  | _ => exact iff_of_false (foreign_malformed _) id

theorem historyRow_ok (row : Json) : (∃ out, historyRow t pkg row = .ok out) ↔ HistoryPasses t pkg row := by
  cases row with
  | dict m =>
    rw [historyRow]
    split
    next hitemid =>
      obtain ⟨itemid, heq⟩ := Option.isSome_iff_exists.1 hitemid
      simp only [normalizing_ok, bind_ok_iff, item_ok, last_ok, HistoryPasses]
      simp [heq]
    next hitemid =>
      refine iff_of_false (malformed_ok _) ?_
      rintro ⟨itemid, -, -, -, heq, -⟩
      exact hitemid (by rw [heq]; rfl)
  | _ => exact iff_of_false (malformed_ok _) id

/-! #### Problems -/

theorem tagOf_named (v : Json) : tagOf t pkg v =
    match named v with
    | some m => do return [← made (pkg.tag (str t (getD m "tag" (.str ""))) (str t (getD m "value" (.str ""))))]
    | none => .ok [] := by
  cases v with
  | dict m =>
    rw [tagOf, named]
    split <;> rfl
  | _ => rfl

theorem made_eq_ok {E : Type} {x : Except Rejection E} {e : E} : made x = .ok e ↔ x = .ok e := by
  cases x with
  | ok e' => simp [made]
  | error r => cases r <;> simp [made]

theorem eachRow_tags (items : List Json) (tags : List Tag) : eachRow (tagOf t pkg) items = .ok tags ↔
    List.Forall₂ (fun m tag => pkg.tag (str t (getD m "tag" (.str ""))) (str t (getD m "value" (.str ""))) = .ok tag)
      (items.filterMap named) tags := by
  induction items generalizing tags with
  | nil => cases tags <;> simp
  | cons v items ih =>
    rw [eachRow, tagOf_named, List.filterMap_cons]
    cases named v with
    | none =>
      rw [← ih]
      cases eachRow (tagOf t pkg) items <;> simp [bind, Except.bind, pure, Except.pure]
    | some m =>
      rw [List.forall₂_cons_left_iff]
      simp only [← ih]
      simp only [← made_eq_ok (x := pkg.tag (str t (getD m "tag" (.str ""))) _)]
      cases made (pkg.tag (str t (getD m "tag" (.str ""))) (str t (getD m "value" (.str "")))) <;>
        cases eachRow (tagOf t pkg) items <;> simp [bind, Except.bind, pure, Except.pure, eq_comm]

theorem tagsOf_ok (m : List (String × Json)) (tags : List Tag) : tagsOf t pkg m = .ok tags ↔ TagsMade t pkg m tags := by
  rw [tagsOf, TagsMade]
  cases iterate (orElse (getD m "tags" .null) (.list [])) with
  | error e => simp [bind, Except.bind]
  | ok items => simpa [bind, Except.bind] using eachRow_tags t pkg items tags

theorem escapes_tagsOf (m : List (String × Json)) : ¬ Escapes (tagsOf t pkg m) := by
  rw [tagsOf, escapes_bind, not_or]
  refine ⟨escapes_iterate _, ?_⟩
  rintro ⟨items, -, e, he, hescaping⟩
  obtain ⟨-, v, -, -, -, hv⟩ := eachRow_error_iff.1 he
  rw [tagOf_named] at hv
  split at hv
  · exact escapes_last _ ⟨e, hv, hescaping⟩
  · cases hv

theorem foreign_problemRow (row : Json) : RaisesForeign (problemRow t pkg row) ↔ ProblemEscapes t pkg row := by
  cases row with
  | dict m =>
    rw [problemRow, ProblemEscapes]
    split
    next heventid =>
      obtain ⟨eventid, heq⟩ := Option.isSome_iff_exists.1 heventid
      rw [and_iff_right heventid]
      split
      next hrecovered => exact iff_of_false (foreign_ok _) fun h => h.1 hrecovered
      next hactive =>
        have hactive : ¬ Recovered t m := hactive
        rw [and_iff_right hactive, foreign_normalizing, escapes_bind, or_iff_right (escapes_tagsOf t pkg m), (item_ok m _ _).2 heq]
        simp only [tagsOf_ok, ← exists_and_right]
        refine exists_congr fun tags => and_congr_right fun _ => ?_
        have htimes := fun objectid => escapes_times t m (getD m "severity" (.int 0)) (fun c s => do
          return [← made (pkg.problem (str t eventid) (str t objectid) c (str t (getD m "name" (.str ""))) s
            (str t (getD m "acknowledged" (.str "0")) = "1") tags)]) fun c s => escapes_last _
        change Escapes (item m "objectid" >>= fun objectid => _) ↔ _
        rw [escapes_bind, escapes_item]
        cases hobject : get? m "objectid" with
        | none => simp
        | some objectid =>
          rw [(item_ok m _ _).2 hobject, ← htimes objectid]
          simp
    next heventid => exact iff_of_false (foreign_malformed _) fun h => heventid h.1
  | _ => exact iff_of_false (foreign_malformed _) id

theorem problemRow_ok (row : Json) : (∃ out, problemRow t pkg row = .ok out) ↔ ProblemPasses t pkg row := by
  cases row with
  | dict m =>
    rw [problemRow]
    split
    next heventid =>
      obtain ⟨eventid, heq⟩ := Option.isSome_iff_exists.1 heventid
      split
      next hrecovered => exact iff_of_true ⟨_, rfl⟩ ⟨eventid, heq, .inl hrecovered⟩
      next hactive =>
        have hactive : ¬ Recovered t m := hactive
        simp only [normalizing_ok, bind_ok_iff, item_ok, tagsOf_ok, last_ok, ProblemPasses, hactive, false_or]
        simp [heq]
    next heventid =>
      refine iff_of_false (malformed_ok _) ?_
      rintro ⟨eventid, heq, -⟩
      exact heventid (by rw [heq]; rfl)
  | _ => exact iff_of_false (malformed_ok _) id

/-! #### Recoveries and triggers -/

theorem foreign_recoveryRow (row : Json) : RaisesForeign (recoveryRow t pkg row) ↔ RecoveryEscapes t row := by
  cases row with
  | dict m =>
    rw [recoveryRow, RecoveryEscapes]
    split
    next heventid =>
      obtain ⟨eventid, heq⟩ := Option.isSome_iff_exists.1 heventid
      rw [and_iff_right heventid]
      split
      next hactive => exact iff_of_false (foreign_ok _) fun h => h.1 hactive
      next hrecovered =>
        have hrecovered : Recovered t m := hrecovered
        rw [and_iff_right hrecovered, foreign_normalizing, (item_ok m _ _).2 heq]
        change Escapes (int t (getD m "r_clock" (.int 0)) >>= fun c => _) ↔ _
        simp only [escapes_bind (int t _), escapes_int, escapes_last, and_false, exists_false, or_false]
    next heventid => exact iff_of_false (foreign_malformed _) fun h => heventid h.1
  | _ => exact iff_of_false (foreign_malformed _) id

theorem recoveryRow_ok (row : Json) : (∃ out, recoveryRow t pkg row = .ok out) ↔ RecoveryPasses t pkg row := by
  cases row with
  | dict m =>
    rw [recoveryRow]
    split
    next heventid =>
      obtain ⟨eventid, heq⟩ := Option.isSome_iff_exists.1 heventid
      split
      next hactive => exact iff_of_true ⟨_, rfl⟩ ⟨eventid, heq, fun h => absurd hactive h⟩
      next hrecovered =>
        have hrecovered : Recovered t m := hrecovered
        simp only [normalizing_ok, bind_ok_iff, item_ok, last_ok, RecoveryPasses, hrecovered, forall_const]
    next heventid =>
      refine iff_of_false (malformed_ok _) ?_
      rintro ⟨eventid, heq, -⟩
      exact heventid (by rw [heq]; rfl)
  | _ => exact iff_of_false (malformed_ok _) id

/-- The pairs of a trigger are made of hosts that fit and of no others. -/
theorem pairs_ok {m : List (String × Json)} {triggerid : Json} (htrigger : get? m "triggerid" = some triggerid) (hosts : Json)
    (htruthy : truthy hosts) : (∃ pairs, (do
      eachRow (fun host => do return [(str t (← item m "triggerid"), str t (← index host "hostid"))])
        (← iterate hosts)) = .ok pairs) ↔ HostsFit hosts := by
  have hhost : ∀ host, (∃ pair, (do return [(str t (← item m "triggerid"), str t (← index host "hostid"))] :
      Except Builtin (List (String × String))) = .ok pair) ↔ ∃ m', host = .dict m' ∧ (get? m' "hostid").isSome := by
    intro host
    rw [(item_ok m _ _).2 htrigger]
    cases host with
    | dict m' => cases hhostid : get? m' "hostid" <;> simp [index, item, hhostid, bind, Except.bind, pure, Except.pure]
    | _ => simp [index, bind, Except.bind]
  rw [bind_ok_iff]
  simp only [eachRow_ok_iff, hhost, HostsFit, htruthy, forall_const]
  cases hosts with
  | list items => simp [iterate]
  | str s =>
    -- the first character is no object
    obtain ⟨c, hc⟩ := List.exists_mem_of_ne_nil s.toList (by simpa [truthy] using htruthy)
    simpa [iterate] using ⟨c, hc⟩
  | dict members =>
    -- the first key is no object
    obtain ⟨⟨key, v⟩, hkey⟩ := List.exists_mem_of_ne_nil members (by simpa [truthy] using htruthy)
    simpa [iterate] using ⟨key, v, hkey⟩
  | _ => simp [iterate]

theorem associationRow_hosts {m : List (String × Json)} (htrigger : (get? m "triggerid").isSome) :
    ((∃ out, associationRow t (.dict m) = .ok out) ↔ HostsFit (getD m "hosts" .null)) ∧
      (RaisesForeign (associationRow t (.dict m)) ↔ ¬ HostsFit (getD m "hosts" .null)) := by
  rw [associationRow, if_pos htrigger]
  obtain ⟨triggerid, heq⟩ := Option.isSome_iff_exists.1 htrigger
  by_cases htruthy : truthy (getD m "hosts" .null)
  · simp only [orElse, htruthy, if_true]
    have hpairs := pairs_ok t heq (getD m "hosts" .null) htruthy
    rw [foreign_bare, ← hpairs]
    generalize (iterate (getD m "hosts" .null) >>= fun hosts => eachRow _ hosts) = x
    cases x <;> simp [bare]
  · have hfits : HostsFit (getD m "hosts" .null) := fun h => absurd h htruthy
    have hnone : orElse (getD m "hosts" .null) (.list []) = .list [] := if_neg htruthy
    simp only [hnone]
    rw [if_neg (by decide)]
    simp [hfits]

theorem foreign_associationRow (row : Json) : RaisesForeign (associationRow t row) ↔ AssociationEscapes row := by
  cases row with
  | dict m =>
    by_cases htrigger : (get? m "triggerid").isSome
    · rw [(associationRow_hosts t htrigger).2, AssociationEscapes, and_iff_right htrigger]
    · rw [associationRow, if_neg htrigger]
      exact iff_of_false (foreign_malformed _) fun h => htrigger h.1
  | _ => exact iff_of_false (foreign_malformed _) id

theorem associationRow_ok (row : Json) : (∃ out, associationRow t row = .ok out) ↔ AssociationPasses row := by
  cases row with
  | dict m =>
    by_cases htrigger : (get? m "triggerid").isSome
    · rw [(associationRow_hosts t htrigger).1, AssociationPasses, and_iff_right htrigger]
    · rw [associationRow, if_neg htrigger]
      exact iff_of_false (malformed_ok _) fun h => htrigger h.1
  | _ => exact iff_of_false (malformed_ok _) id

end Rows

/-! ### The readers -/

section Replies

variable (t : Tables) {History Problem Recovery Tag : Type} (pkg : Package History Problem Recovery Tag)

/-- `_rpc` reads the body, and no row of its result that is reached escapes. -/
def RepliesFit (passes escapes : Json → Prop) (body : Json) : Prop :=
  BodyFits body ∧ ∀ rows, HasResult body (.list rows) → ¬ Reaches passes escapes rows

/-- The result is a list of rows that pass. -/
def RowsPass (passes : Json → Prop) (body : Json) : Prop :=
  ∃ rows, HasResult body (.list rows) ∧ ∀ row ∈ rows, passes row

theorem total_readRows {α : Type} {notList : String} {row : Json → Except Exception (List α)} {passes escapes : Json → Prop}
    (hok : ∀ r, (∃ out, row r = .ok out) ↔ passes r) (hforeign : ∀ r, RaisesForeign (row r) ↔ escapes r) (body : Json) :
    Total (readRows t notList row (.response 200 (some body))) ↔ RepliesFit passes escapes body := by
  rw [Total, readRows, foreign_bind, foreign_rpc, not_or, not_not, RepliesFit]
  refine and_congr_right fun _ => ?_
  rw [not_exists]
  constructor
  · intro h rows hresult hreaches
    exact h (.list rows) ⟨(rpc_result t body _).2 hresult, (eachRow_reaches hok hforeign).2 hreaches⟩
  · rintro h result ⟨hresult, hraises⟩
    cases result with
    | list rows => exact h rows ((rpc_result t body _).1 hresult) ((eachRow_reaches hok hforeign).1 hraises)
    | _ => exact foreign_provider _ hraises

theorem readRows_ok {α : Type} {notList : String} {row : Json → Except Exception (List α)} {passes : Json → Prop}
    (hok : ∀ r, (∃ out, row r = .ok out) ↔ passes r) (body : Json) :
    (∃ out, readRows t notList row (.response 200 (some body)) = .ok out) ↔ RowsPass passes body := by
  rw [readRows, bind_ok_iff]
  constructor
  · rintro ⟨result, hresult, out, hout⟩
    cases result with
    | list rows =>
      exact ⟨rows, (rpc_result t body _).1 hresult, fun row hrow => (hok row).1 (eachRow_ok_iff.1 ⟨out, hout⟩ row hrow)⟩
    | _ => cases hout
  · rintro ⟨rows, hresult, hrows⟩
    exact ⟨.list rows, (rpc_result t body _).2 hresult, eachRow_ok_iff.2 fun row hrow => (hok row).2 (hrows row hrow)⟩

/-- The problems that are read: no more than asked for. -/
def ProblemsFit (max_rows : ℤ) (body : Json) : Prop :=
  BodyFits body ∧ ∀ rows, HasResult body (.list rows) → ¬ Reaches (ProblemPasses t pkg) (ProblemEscapes t pkg) (upTo rows max_rows)

theorem total_active_problems (max_rows : ℤ) (body : Json) :
    Total (read_active_problems t pkg max_rows (.response 200 (some body))) ↔ ProblemsFit t pkg max_rows body := by
  rw [Total, read_active_problems, foreign_bind, foreign_rpc, not_or, not_not, ProblemsFit]
  refine and_congr_right fun _ => ?_
  have hrows : ∀ rows, RaisesForeign (do
      return (← eachRow (problemRow t pkg) (upTo rows max_rows), decide ((rows.length : ℤ) ≤ max_rows))) ↔
        Reaches (ProblemPasses t pkg) (ProblemEscapes t pkg) (upTo rows max_rows) := by
    intro rows
    rw [← eachRow_reaches (problemRow_ok t pkg) (foreign_problemRow t pkg), foreign_bind]
    refine or_iff_left ?_
    rintro ⟨out, -, h⟩
    exact foreign_ok _ h
  rw [not_exists]
  constructor
  · intro h rows hresult hreaches
    exact h (.list rows) ⟨(rpc_result t body _).2 hresult, (hrows rows).2 hreaches⟩
  · rintro h result ⟨hresult, hraises⟩
    cases result with
    | list rows => exact h rows ((rpc_result t body _).1 hresult) ((hrows rows).1 hraises)
    | _ => exact foreign_malformed _ hraises

end Replies

/-! ### The turns of the workers -/

section Turns

variable {α β γ : Type}

/-- The part of the package that calls a reader: it makes a result, good or failed, of what the reader raises. -/
structure Collector (α : Type) where
  /-- Whether the result has succeeded. -/
  run : Except Exception α → Except Exception Bool
  evidence : ∀ a, ∃ succeeded, run (.ok a) = .ok succeeded
  provider : ∀ e, run (.error (.provider e)) = .ok false
  builtin : ∀ e, run (.error (.builtin e)) = .error (.builtin e)

/-- `workers/history.py`: the result of the window is what is completed. -/
def historyTurn (window : Collector α) (rows : Except Exception α) : Except Exception Bool := window.run rows

/-- `workers/problem_state.py`: the worker reads the triggers and the recoveries by itself. -/
def problemTurn (collect : α → Collector β) (pairs : Except Exception α) (rows : Except Exception β)
    (recoveries : Except Exception γ) : Except Exception Bool := do
  let pairs ← pairs
  let succeeded ← (collect pairs).run rows
  if succeeded then
    let _ ← recoveries
  return succeeded

/-- The turn completes the operation, with its result. Otherwise it is rolled back and logged. -/
def Recorded (turn : Except Exception Bool) : Prop := ∃ succeeded, turn = .ok succeeded

theorem recorded_run (collector : Collector α) (rows : Except Exception α) : Recorded (collector.run rows) ↔ Total rows := by
  cases rows with
  | ok a => exact iff_of_true (collector.evidence a) (foreign_ok a)
  | error e =>
    cases e with
    | provider e => exact iff_of_true ⟨false, collector.provider e⟩ (foreign_provider e)
    | builtin e =>
      refine iff_of_false ?_ fun h => h (foreign_builtin e)
      rintro ⟨succeeded, h⟩
      rw [collector.builtin] at h
      cases h

/-- A call that the worker makes by itself has to give evidence. -/
theorem recorded_problemTurn (collect : α → Collector β) (pairs : Except Exception α) (rows : Except Exception β)
    (recoveries : Except Exception γ) : Recorded (problemTurn collect pairs rows recoveries) ↔
      (∃ p, pairs = .ok p) ∧ Total rows ∧
        ((∃ p, pairs = .ok p ∧ (collect p).run rows = .ok true) → ∃ r, recoveries = .ok r) := by
  rw [problemTurn]
  cases pairs with
  | error e =>
    refine iff_of_false ?_ ?_
    · rintro ⟨succeeded, h⟩
      cases h
    · rintro ⟨⟨p, h⟩, -⟩
      cases h
  | ok p =>
    rw [← recorded_run (collect p) rows]
    cases hrun : (collect p).run rows with
    | error e => simp [Recorded, bind, Except.bind, hrun]
    | ok succeeded =>
      cases succeeded with
      | false => simp [Recorded, bind, Except.bind, hrun, pure, Except.pure]
      | true => cases recoveries <;> simp [Recorded, bind, Except.bind, hrun, pure, Except.pure]

end Turns

section Adapter

variable {History Problem Recovery Tag : Type}

/-- A reply with the status 200 and a body. -/
def replied (body : Json) : Reply := .response 200 (some body)

/-- **Key result**: when each call gives evidence or raises a Provider error, and when the turns record what they are told. -/
theorem adapter_total_iff (t : Tables) (pkg : Package History Problem Recovery Tag) :
    (∀ body, Total (rpc t (replied body)) ↔ BodyFits body) ∧
    (∀ body, Total (read_history t pkg (replied body)) ↔ RepliesFit (HistoryPasses t pkg) (HistoryEscapes t) body) ∧
    (∀ max_rows body, Total (read_active_problems t pkg max_rows (replied body)) ↔ ProblemsFit t pkg max_rows body) ∧
    (∀ ids body, Total (read_recovery_events t pkg ids (replied body)) ↔
      ids = [] ∨ RepliesFit (RecoveryPasses t pkg) (RecoveryEscapes t) body) ∧
    (∀ body, Total (read_trigger_associations t (replied body)) ↔ RepliesFit AssociationPasses AssociationEscapes body) ∧
    (∀ (window : Collector (List History)) body, Recorded (historyTurn window (read_history t pkg (replied body))) ↔
      RepliesFit (HistoryPasses t pkg) (HistoryEscapes t) body) ∧
    ∀ (collect : List (String × String) → Collector (List Problem × Bool)) max_rows ids triggers problems recoveries,
      Recorded (problemTurn collect (read_trigger_associations t (replied triggers))
          (read_active_problems t pkg max_rows (replied problems)) (read_recovery_events t pkg ids (replied recoveries))) ↔
        RowsPass AssociationPasses triggers ∧ ProblemsFit t pkg max_rows problems ∧
          ((∃ pairs, read_trigger_associations t (replied triggers) = .ok pairs ∧
              (collect pairs).run (read_active_problems t pkg max_rows (replied problems)) = .ok true) →
            ids = [] ∨ RowsPass (RecoveryPasses t pkg) recoveries) := by
  have hhistory : ∀ body, Total (read_history t pkg (replied body)) ↔
      RepliesFit (HistoryPasses t pkg) (HistoryEscapes t) body :=
    total_readRows t (historyRow_ok t pkg) (foreign_historyRow t pkg)
  refine ⟨fun body => ?_, hhistory, total_active_problems t pkg, fun ids body => ?_,
    total_readRows t (associationRow_ok t) (foreign_associationRow t), fun window body => ?_,
    fun collect max_rows ids triggers problems recoveries => ?_⟩
  · rw [Total, replied, foreign_rpc, not_not]
  · rw [read_recovery_events]
    split
    next hids => exact iff_of_true (foreign_ok _) (.inl hids)
    next hids => rw [or_iff_right hids, replied, total_readRows t (recoveryRow_ok t pkg) (foreign_recoveryRow t pkg)]
  · rw [historyTurn, recorded_run, hhistory]
  · have hrecoveries : (∃ out, read_recovery_events t pkg ids (replied recoveries) = .ok out) ↔
        ids = [] ∨ RowsPass (RecoveryPasses t pkg) recoveries := by
      rw [read_recovery_events]
      split
      next hids => exact iff_of_true ⟨_, rfl⟩ (.inl hids)
      next hids => rw [or_iff_right hids, replied, readRows_ok t (recoveryRow_ok t pkg)]
    rw [recorded_problemTurn, hrecoveries, replied, read_trigger_associations, readRows_ok t (associationRow_ok t), replied,
      total_active_problems]

/-- Bodies that leave each call by another exception. -/
theorem malformed_replies_escape :
    let t : Tables := ⟨fun s => s, fun _ => "inf", fun _ => none⟩
    let pkg : Package Unit Unit Unit Unit := ⟨fun _ _ _ _ => .ok (), fun _ _ _ _ _ _ _ => .ok (), fun _ _ _ => .ok (),
      fun _ _ => .ok ()⟩
    let rows := fun row => replied (.dict [("jsonrpc", .str "2.0"), ("result", .list [.dict row]), ("id", .int 1)])
    rpc t (replied (.int 5)) = .error (.builtin (.typeError "argument of type 'int' is not iterable")) ∧
    rpc t (replied (.dict [("error", .str "down")])) =
      .error (.builtin (.attributeError "'str' object has no attribute 'get'")) ∧
    read_history t pkg (rows [("itemid", .str "10"), ("value", .str "1")]) = .error (.builtin (.keyError "clock")) ∧
    read_active_problems t pkg 100 (rows [("eventid", .str "7"), ("clock", .int 1700000000)]) =
      .error (.builtin (.keyError "objectid")) ∧
    read_recovery_events t pkg ["7"]
        (rows [("eventid", .str "7"), ("r_eventid", .str "8"), ("r_clock", .float (.infinite false))]) =
      .error (.builtin (.overflowError "cannot convert float infinity to integer")) ∧
    read_trigger_associations t (rows [("triggerid", .str "3"), ("hosts", .list [.dict [("host", .str "web")]])]) =
      .error (.builtin (.keyError "hostid")) :=
  ⟨rfl, rfl, rfl, rfl, rfl, rfl⟩

end Adapter

end JLMirror.Providers
