import JLMirror.Foundations.Strings

/-!
# The credential document in OpenBao

`BaoCredentialResolver` of `providers/credentials.py`: `store_zabbix_api_token` and `delete_zabbix_api_token` read the one KV
v2 document that holds every credential reference, change one of them, and write the document back at the version they read.

## The model

* Any number of writers. A call is one of the two functions; each loops over at most three attempts.
* A POST is a message: the server takes it at some later moment, or never. It writes if the version is the one that the
  request names, and refuses it otherwise.
* The writer may see an error of any text at any moment, whatever the server does with the request; it retries if the text
  has `cas` in it.
* The clock counts the steps. `calls`, `effects` and `reported` record what has happened; no statement reads them.

## Honest scope

Only these two functions write to the document. The local cache of `resolve_zabbix_api_token` is left out: the calls only
drop an entry of it.
-/

namespace JLMirror.Credentials

open JLMirror.Foundations

/-! ### The document -/

/-- The `data` of the secret: a token for each reference that it holds. -/
abbrev Document := String → Option String

/-- The secret, with no data before its first write and once it is deleted. -/
structure KvSecret where
  data : Option Document
  version : ℕ

/-- `_fetch_document`: a 404 is `{}, 0`. -/
def KvSecret.fetch (kv : KvSecret) : Document × ℕ :=
  match kv.data with
  | none => (fun _ => none, 0)
  | some document => (document, kv.version)

/-- The references that the secret holds. -/
def KvSecret.document (kv : KvSecret) : Document := kv.fetch.1

/-- What a call is to do. -/
inductive Change where
  | store (credential_binding_ref token : String)
  | delete (credential_binding_ref : String)
  deriving DecidableEq

namespace Change

def ref : Change → String
  | store ref _ | delete ref => ref

/-- What it leaves at its reference. -/
def value : Change → Option String
  | store _ token => some token
  | delete _ => none

/-- `document[ref] = token`, or `document.pop(ref)`. -/
def apply (c : Change) (document : Document) : Document := Function.update document c.ref c.value

end Change

/-- `[A-Za-z0-9]` -/
def isAlnum (c : Char) : Bool := c.isAlpha ∨ c.isDigit

/-- `_REF_SAFE.match`: `$` is also before a last newline. -/
def refSafe (ref : String) : Bool :=
  let rest (cs : List Char) : Bool := cs.all fun c => isAlnum c ∨ c = '.' ∨ c = '_' ∨ c = '-'
  match ref.toList with
  | [] => false
  | c :: cs => isAlnum c ∧ (rest cs ∨ cs.getLast? = some '\n' ∧ rest cs.dropLast)

/-- What a call checks before it reads. -/
def Change.checked (available : Bool) : Change → Except String Change
  | .store ref token =>
    if ¬available then .error "credential store unavailable (bao not configured)"
    else if ¬refSafe ref then .error "credential binding ref is not a safe KV key"
    else if strip token.toList = [] then .error "credential token is empty"
    else .ok (.store ref (String.ofList (strip token.toList)))
  | .delete ref =>
    if ¬available then .error "credential store unavailable (bao not configured)"
    else if ¬refSafe ref then .error "credential binding ref is not a safe KV key"
    else .ok (.delete ref)

/-! ### The calls -/

structure Call where
  change : Change
  /-- When it was made. -/
  started : ℕ
  deriving DecidableEq

/-- Where a writer is. -/
inductive CallPoint where
  | idle
  /-- Before the GET of an attempt. -/
  | fetch (call : Call) (attempt : ℕ)
  /-- Before the POST. -/
  | put (call : Call) (attempt : ℕ) (document : Document) (cas_version : ℕ)
  /-- The POST has been sent. -/
  | waiting (call : Call) (attempt : ℕ) (request : ℕ)
  /-- After the `break`. -/
  | returning (call : Call)

inductive RequestStatus where
  | inflight
  | written
  | refused
  deriving DecidableEq

/-- A POST. -/
structure Request where
  id : ℕ
  call : Call
  document : Document
  cas : ℕ
  status : RequestStatus

/-- A call takes effect. -/
structure Effect where
  call : Call
  time : ℕ
  deriving DecidableEq

/-- A call reports success. -/
structure Report where
  call : Call
  ended : ℕ
  deriving DecidableEq

structure BaoSystem where
  kv : KvSecret
  requests : List Request
  pc : ℕ → CallPoint
  clock : ℕ
  calls : List Call
  effects : List Effect
  reported : List Report

inductive BaoAct where
  | call (w : ℕ) (available : Bool) (change : Change)
  /-- The GET is answered. -/
  | fetch (w : ℕ)
  /-- The POST is sent. -/
  | send (w : ℕ)
  /-- The server takes a POST. -/
  | serve (request : ℕ)
  /-- The writer gets the server's answer to its POST. -/
  | answer (w : ℕ)
  /-- It gets an error, with the text of the exception. -/
  | error (w : ℕ) (exc : String)
  | ret (w : ℕ)
  | die (w : ℕ)

/-- `"cas" in str(exc).lower() and _attempt < 2` -/
def afterError (call : Call) (attempt : ℕ) (text : String) : CallPoint :=
  if inLower "cas" text ∧ attempt < 2 then .fetch call (attempt + 1) else .idle

namespace BaoSystem

variable (s : BaoSystem) (w : ℕ)

/-- The writer goes on. -/
def goto (p : CallPoint) : BaoSystem := { s with pc := Function.update s.pc w p }

/-- What the server has done with a POST. -/
def status (id : ℕ) : Option RequestStatus := (s.requests.find? fun r => r.id = id).map (·.status)

/-- The document that a call has read, and what it makes of it: a `delete` of a reference that is not there is done. -/
def fetched (call : Call) (attempt : ℕ) : BaoSystem :=
  let put := s.goto w (.put call attempt (call.change.apply s.kv.document) s.kv.fetch.2)
  match call.change with
  | .store _ _ => put
  | .delete ref =>
    if (s.kv.document ref).isNone then { s.goto w (.returning call) with effects := s.effects ++ [⟨call, s.clock⟩] }
    else put

/-- A POST with `"options": {"cas": …}`. -/
def serve (id : ℕ) : BaoSystem :=
  match s.requests.find? fun r => r.id = id ∧ r.status = .inflight with
  | none => s
  | some r =>
    let settle (status : RequestStatus) : List Request :=
      s.requests.map fun r => if r.id = id then { r with status } else r
    if r.cas = s.kv.version then
      { s with
        kv := ⟨some r.document, s.kv.version + 1⟩, requests := settle .written
        effects := s.effects ++ [⟨r.call, s.clock⟩] }
    else { s with requests := settle .refused }

/-- A step, before the clock goes on. -/
def act : BaoAct → BaoSystem
  | .call w available change =>
    match s.pc w, change.checked available with
    | .idle, .ok change =>
      { s.goto w (.fetch ⟨change, s.clock⟩ 0) with calls := s.calls ++ [⟨change, s.clock⟩] }
    | _, _ => s
  | .fetch w =>
    match s.pc w with
    | .fetch call attempt => s.fetched w call attempt
    | _ => s
  | .send w =>
    match s.pc w with
    | .put call attempt document cas =>
      { s.goto w (.waiting call attempt s.clock) with
        requests := s.requests ++ [⟨s.clock, call, document, cas, .inflight⟩] }
    | _ => s
  | .serve id => s.serve id
  | .answer w =>
    match s.pc w with
    | .waiting call attempt id =>
      match s.status id with
      | some .written => s.goto w (.returning call)
      | some .refused => s.goto w (afterError call attempt "credential write cas conflict — will retry")
      | _ => s
    | _ => s
  | .error w exc =>
    match s.pc w with
    | .waiting call attempt _ =>
      s.goto w (afterError call attempt ("credential store unavailable (bao write: " ++ exc ++ ")"))
    | .fetch _ _ => s.goto w .idle
    | _ => s
  | .ret w =>
    match s.pc w with
    | .returning call => { s.goto w .idle with reported := s.reported ++ [⟨call, s.clock⟩] }
    | _ => s
  | .die w => s.goto w .idle

def step (a : BaoAct) : BaoSystem := { s.act a with clock := s.clock + 1 }

/-- Nobody has called yet. -/
def init (kv : KvSecret) : BaoSystem := ⟨kv, [], fun _ => .idle, 0, [], [], []⟩

end BaoSystem

end JLMirror.Credentials
