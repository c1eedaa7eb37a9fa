import JLMirror.Egress.Outbound

/-!
# The pinned transport and the plain request

A pinned call of `_rpc` (`providers/zabbix.py`) takes the endpoint apart and puts the admitted address in the place of the
host; the `Host` header and the TLS server name keep the host. The call should be the one that a plain POST to the endpoint
would be, except for whom it connects to.

## The model

* `BaseUrl` is an https URL: a host name, an address in brackets or an IPv4 address, perhaps a port, and a path.
* `Client` is `httpx` where it decides by tables: what it makes of a host name and of a path, and what it sends as a header.
  It splits a URL as RFC 3986 says, and its own `Host` header is the host with the port unless that is the default one.
* The admissions are those of `Outbound`, interleaved with the other jobs of the process.

## What is proved

* `pin_admitted`: the pin of an endpoint is from an admission of that endpoint, after any jobs.
* `post_plain`, `rpc_pinned`: what the two requests come to.
* **Key result** (`pinned_as_plain_iff`): the pinned call is the plain one at the admitted address if and only if the address
  is one of version 4, the URL has no other port than 443, and the client leaves the host name as the admission has it.

## Honest scope

The user of a URL and its query are left out, as are characters that a URL cannot have.
-/

namespace JLMirror.Egress

open Foundations

/-! ### URLs -/

/-- An https URL. -/
structure BaseUrl where
  host : List Char
  /-- The host is in brackets. -/
  bracketed : Bool
  /-- The digits of the port, if there is one. -/
  port : List Char
  path : List Char
  host_ne : host ≠ []
  host_chars : ∀ c ∈ host, ' ' < c ∧ c ∉ ['/', '?', '#', '@', '[', ']'] ∧ (bracketed = false → c ∉ [':', '%'])
  port_digits : ∀ c ∈ port, c.isDigit = true
  port_range : Nat.ofDigitChars 10 port 0 ≤ 65535
  path_head : path = [] ∨ path.head? = some '/'
  path_chars : ∀ c ∈ path, ' ' < c ∧ c ∉ ['?', '#']

/-- A URL of an authority and what is after it. -/
def assemble (authority after : List Char) : List Char := "https://".toList ++ authority ++ after

/-- A port, after its colon. -/
def portText (port : List Char) : List Char := if port = [] then [] else ':' :: port

namespace BaseUrl

variable (u : BaseUrl)

def authority : List Char := (if u.bracketed then '[' :: u.host ++ [']'] else u.host) ++ portText u.port

def text : List Char := assemble u.authority u.path

/-- `api_url` -/
def endpoint : String := String.ofList (rstrip (· = '/') u.text) ++ "/api_jsonrpc.php"

/-- No port, or the default one. -/
def DefaultPort : Prop := u.port = [] ∨ Nat.ofDigitChars 10 u.port 0 = 443

end BaseUrl

/-! ### The parts that `_rpc` reads -/

/-- The host of an authority and the text of its port. -/
def hostPort (authority : List Char) : List Char × List Char :=
  let info := afterLast '@' authority
  if '[' ∈ info then
    let inner := afterFirst '[' info
    (beforeFirst ']' inner, afterFirst ':' (afterFirst ']' inner))
  else (beforeFirst ':' info, afterFirst ':' info)

/-- The number of a port; `none` is an exception. -/
def portNumber (port : List Char) : Option (Option ℕ) :=
  if port = [] then some none
  else if port.all Char.isDigit then some (some (Nat.ofDigitChars 10 port 0))
  else none

/-- What is after the authority. -/
def afterNetloc (url : List Char) : List Char :=
  (urlparse_scheme url).2.drop (2 + (netloc (urlparse_scheme url).2).length)

/-- `parsed.port` -/
def urlparse_port (url : List Char) : Option (Option ℕ) :=
  match portNumber (hostPort (netloc (urlparse_scheme url).2)).2 with
  | some (some port) => if port ≤ 65535 then some (some port) else none
  | port => port

/-- `parsed.path`: without the query, the fragment and the parameters of the last segment. -/
def urlparse_path (url : List Char) : List Char :=
  let path := (afterNetloc url).takeWhile fun c => c ∉ ['?', '#']
  let last := afterLast '/' path
  path.take (path.length - last.length) ++ beforeFirst ';' last

/-- The URL of a pinned call. -/
def pinned_url (endpoint : List Char) (ip : String) : Option (List Char) :=
  (urlparse_port endpoint).map fun port =>
    let port := if port.getD 0 = 0 then [] else ':' :: Nat.toDigits 10 (port.getD 0)
    (urlparse_scheme endpoint).1 ++ "://".toList ++ ip.toList ++ port ++ urlparse_path endpoint

/-! ### The client -/

/-- What `httpx` decides by tables. -/
structure Client where
  /-- The host that is asked for, of a host name or an IPv4 address; `none` is an exception. -/
  encode_host : String → Option String
  /-- The target of the request, of what is after the authority. -/
  target : String → String
  /-- The text can be the value of a header. -/
  header : String → Bool

/-- A request as it is sent. -/
structure Sent where
  /-- The host or the address that is connected to. -/
  address : String
  port : ℕ
  target : String
  /-- The `Host` header. -/
  host : String
  /-- The TLS server name. -/
  server_name : String
  deriving DecidableEq

/-- `client.post`, with a `Host` header and `sni_hostname` or without; `none` is an exception. -/
def Client.post (client : Client) (url : List Char) (host sni_hostname : Option String) : Option Sent :=
  let authority := netloc (urlparse_scheme url).2
  let parts := hostPort authority
  let name := String.ofList parts.1
  let bracketed := '[' ∈ afterLast '@' authority
  match portNumber parts.2, if bracketed then some name else client.encode_host name with
  | some port, some name =>
    let own := (if bracketed then "[" ++ name ++ "]" else name) ++
      if port.getD 443 = 443 then "" else ":" ++ Nat.repr (port.getD 443)
    if client.header (host.getD own) then
      some ⟨name, port.getD 443, client.target (String.ofList (afterNetloc url)), host.getD own, sni_hostname.getD name⟩
    else none
  | _, _ => none

/-- The request of `_rpc`. -/
def rpc_request (client : Client) (pins : String → Option Pin) (endpoint : String) : Option Sent :=
  match pins endpoint with
  | none => client.post endpoint.toList none none
  | some pin => (pinned_url endpoint.toList pin.ip.text).bind fun url => client.post url (some pin.host) (some pin.host)

/-! ### The claim -/

/-- The pinned call connects to an address that an admission of the endpoint has resolved and screened, and is otherwise the
plain request. -/
structure PinnedAsPlain (lib : Library) (env : Env) (client : Client) (jobs : List Job) (endpoint : String) (pin : Pin) :
    Prop where
  admitted : ∃ base_url answer, Job.admission base_url answer ∈ jobs ∧
    admit_zabbix_api lib env base_url answer = .ok (endpoint, some pin)
  resolved : pin.ip ∈ pin.resolved ∧ Public lib env pin.resolved
  same : ∃ sent plain, rpc_request client (jobs.foldl (step lib env) .start).pins endpoint = some sent ∧
    client.post endpoint.toList none none = some plain ∧ sent.address = pin.ip.text ∧ sent.port = plain.port ∧
    sent.target = plain.target ∧ sent.host = plain.host ∧ sent.server_name = plain.server_name

/-- The text of an address. -/
structure Textual (ip : IpAddress) : Prop where
  v4 : ip.v6 = false → ip.text ≠ "" ∧ ∀ c ∈ ip.text.toList, c.isDigit = true ∨ c = '.'
  v6 : ip.v6 = true → 2 ≤ ip.text.toList.count ':' ∧ ∀ c ∈ ip.text.toList, c ∉ ['/', '?', '#', '@', '[', ']']

/-- What is documented of `ipaddress`, of the name service and of `httpx`. -/
structure Documented (lib : Library) (client : Client) (jobs : List Job) : Prop where
  /-- `str(ip_address(…))` -/
  literal : ∀ text ip, lib.ip_address text = some ip → Textual ip
  answers : ∀ base_url ips, Job.admission base_url (some ips) ∈ jobs → ∀ ip ∈ ips, Textual ip
  /-- An IPv4 address is a host as it is. -/
  dotted : ∀ ip, Textual ip → ip.v6 = false → client.encode_host ip.text = some ip.text
  /-- What the client makes of a host name can be sent. -/
  encoded : ∀ name host, client.encode_host name = some host → client.header host = true

/-- The address is one of version 4, there is no other port than 443, and the client leaves the host name as the admission
has it. -/
structure Kept (lib : Library) (client : Client) (u : BaseUrl) (pin : Pin) : Prop where
  name : u.bracketed = false
  v4 : pin.ip.v6 = false
  port : u.DefaultPort
  host : client.encode_host (String.ofList u.host) = some (lib.lower (lib.lower (String.ofList u.host)))

/-! ### Taking a URL apart -/

section Texts

variable {authority after : List Char}

variable {c : Char} {l : List Char}

theorem all_ne (h : c ∉ l) : ∀ a ∈ l, decide (a ≠ c) = true := by
  intro a ha
  refine decide_eq_true fun heq => h ?_
  rw [← heq]
  exact ha

theorem beforeFirst_append (rest : List Char) (h : c ∉ l) : beforeFirst c (l ++ c :: rest) = l := by
  unfold beforeFirst
  rw [List.takeWhile_append_of_pos (all_ne h)]
  simp

theorem beforeFirst_self (h : c ∉ l) : beforeFirst c l = l :=
  List.takeWhile_eq_self_iff.2 (all_ne h)

theorem afterFirst_append (rest : List Char) (h : c ∉ l) : afterFirst c (l ++ c :: rest) = rest := by
  unfold afterFirst
  rw [List.dropWhile_append_of_pos (all_ne h)]
  simp

theorem afterFirst_nil (h : c ∉ l) : afterFirst c l = [] := by
  unfold afterFirst
  rw [List.dropWhile_eq_nil_iff.2 (all_ne h)]
  rfl

theorem afterLast_self (h : c ∉ l) : afterLast c l = l := by
  unfold afterLast
  rw [List.takeWhile_eq_self_iff.2 (all_ne fun hmem => h (List.mem_reverse.1 hmem)), List.reverse_reverse]

theorem afterLast_append (l : List Char) {rest : List Char} (h : c ∉ rest) : afterLast c (l ++ c :: rest) = rest := by
  unfold afterLast
  rw [List.reverse_append, List.reverse_cons, List.append_assoc,
    List.takeWhile_append_of_pos (all_ne fun hmem => h (List.mem_reverse.1 hmem))]
  simp

theorem assemble_def (authority after : List Char) : assemble authority after = "https://".toList ++ authority ++ after := rfl

theorem assemble_eq (authority after : List Char) :
    assemble authority after = ['h', 't', 't', 'p', 's'] ++ ':' :: '/' :: '/' :: (authority ++ after) := by
  rw [assemble_def]
  simp

theorem urlparse_scheme_assemble (authority after : List Char) :
    urlparse_scheme (assemble authority after) = (['h', 't', 't', 'p', 's'], '/' :: '/' :: (authority ++ after)) := by
  have hhead : beforeFirst ':' (assemble authority after) = ['h', 't', 't', 'p', 's'] := by
    rw [assemble_eq]
    exact beforeFirst_append _ (by decide)
  unfold urlparse_scheme
  rw [hhead, if_pos ⟨by rw [assemble_eq]; simp, by decide⟩, assemble_eq]
  rfl

theorem netloc_assemble (hauthority : ∀ c ∈ authority, c ∉ ['/', '?', '#'])
    (hafter : after = [] ∨ after.head? = some '/') : netloc (urlparse_scheme (assemble authority after)).2 = authority := by
  rw [urlparse_scheme_assemble]
  unfold netloc
  rw [if_pos (by simp)]
  show List.takeWhile _ (authority ++ after) = authority
  rw [List.takeWhile_append_of_pos fun c hc => decide_eq_true (hauthority c hc)]
  rcases hafter with rfl | hhead
  · exact List.append_nil _
  · obtain ⟨rest, rfl⟩ : ∃ rest, after = '/' :: rest := by
      cases after with
      | nil => cases hhead
      | cons c rest => exact ⟨rest, by rw [Option.some.inj hhead]⟩
    simp

theorem afterNetloc_assemble (hauthority : ∀ c ∈ authority, c ∉ ['/', '?', '#'])
    (hafter : after = [] ∨ after.head? = some '/') : afterNetloc (assemble authority after) = after := by
  unfold afterNetloc
  rw [netloc_assemble hauthority hafter, urlparse_scheme_assemble]
  show List.drop _ (['/', '/'] ++ (authority ++ after)) = after
  rw [← List.append_assoc]
  exact List.drop_left' (by rw [List.length_append]; rfl)

/-- The path of the API has no parameters. -/
theorem urlparse_path_assemble {path : List Char} (hauthority : ∀ c ∈ authority, c ∉ ['/', '?', '#'])
    (hpath : path = [] ∨ path.head? = some '/') (hchars : ∀ c ∈ path, c ∉ ['?', '#']) :
    urlparse_path (assemble authority (path ++ "/api_jsonrpc.php".toList)) = path ++ "/api_jsonrpc.php".toList := by
  have hhead : path ++ "/api_jsonrpc.php".toList = [] ∨ (path ++ "/api_jsonrpc.php".toList).head? = some '/' := by
    right
    rcases hpath with rfl | hhead
    · rfl
    · rw [List.head?_append, hhead]
      rfl
  have hall : ∀ c ∈ path ++ "/api_jsonrpc.php".toList, c ∉ ['?', '#'] := by
    intro c hc
    rcases List.mem_append.1 hc with hc | hc
    · exact hchars c hc
    · exact (by simp : ∀ c ∈ "/api_jsonrpc.php".toList, c ∉ ['?', '#']) c hc
  have hlast : afterLast '/' (path ++ "/api_jsonrpc.php".toList) = "api_jsonrpc.php".toList := by
    have hsplit : "/api_jsonrpc.php".toList = '/' :: "api_jsonrpc.php".toList := by decide
    rw [hsplit]
    exact afterLast_append path (by decide)
  unfold urlparse_path
  rw [afterNetloc_assemble hauthority hhead, List.takeWhile_eq_self_iff.2 fun c hc => decide_eq_true (hall c hc)]
  dsimp only
  rw [hlast, beforeFirst_self (by decide)]
  have hsplit : path ++ "/api_jsonrpc.php".toList = (path ++ ['/']) ++ "api_jsonrpc.php".toList := by simp
  rw [hsplit, List.length_append, Nat.add_sub_cancel, List.take_left]

/-- Nothing but the path is stripped. -/
theorem rstrip_append {p : Char → Bool} {front rest : List Char} (hlast : front.getLast? = some c) (hc : p c = false) :
    rstrip p (front ++ rest) = front ++ rstrip p rest := by
  have hfront : front.reverse.dropWhile p = front.reverse := by
    obtain ⟨tail, htail⟩ : ∃ tail, front.reverse = c :: tail := by
      rw [List.getLast?_eq_head?_reverse] at hlast
      cases hrev : front.reverse with
      | nil => rw [hrev] at hlast; cases hlast
      | cons d tail => rw [hrev] at hlast; exact ⟨tail, by rw [Option.some.inj hlast]⟩
    rw [htail, List.dropWhile_cons_of_neg (by rw [hc]; nofun)]
  unfold rstrip
  rw [List.reverse_append, List.dropWhile_append]
  split_ifs with hempty
  · rw [hfront, List.isEmpty_iff.1 hempty, List.reverse_reverse]
    exact (List.append_nil _).symm
  · rw [List.reverse_append, List.reverse_reverse]

theorem rstrip_sublist_prefix (p : Char → Bool) (l : List Char) : rstrip p l <+: l := by
  have hsuffix : l.reverse.dropWhile p <:+ l.reverse := List.dropWhile_suffix p
  unfold rstrip
  rw [← List.reverse_reverse l, List.reverse_prefix, List.reverse_reverse]
  exact hsuffix

theorem digit_notMem (h : c.isDigit = true) : c ∉ ['/', '?', '#', '@', '[', ']', ':'] := by
  intro hmem
  have hall : ∀ d ∈ ['/', '?', '#', '@', '[', ']', ':'], d.isDigit = false := by simp
  rw [hall c hmem] at h
  cases h

theorem notMem_of_all {cs : List Char} (h : ∀ d ∈ l, d ∉ cs) (hc : c ∈ cs) : c ∉ l :=
  fun hmem => h c hmem hc

/-- A host without brackets, and its port. -/
theorem hostPort_plain (host : List Char) {port : List Char} (hhost : ∀ c ∈ host, c ∉ ['@', '[', ':']) (hport : ∀ c ∈ port, c.isDigit = true) :
    hostPort (host ++ portText port) = (host, port) ∧ '[' ∉ afterLast '@' (host ++ portText port) := by
  have hall : ∀ c ∈ host ++ portText port, c ∉ ['@', '['] := by
    intro c hc
    rcases List.mem_append.1 hc with hc | hc
    · exact fun hmem => hhost c hc (by revert hmem; simp; tauto)
    · unfold portText at hc
      split_ifs at hc
      · cases hc
      · rcases List.mem_cons.1 hc with rfl | hc
        · decide
        · exact fun hmem => digit_notMem (hport c hc) (by revert hmem; simp; tauto)
  have hself : afterLast '@' (host ++ portText port) = host ++ portText port :=
    afterLast_self (notMem_of_all hall (by simp))
  have hbracket : '[' ∉ host ++ portText port := notMem_of_all hall (by simp)
  have hcolon : ':' ∉ host := notMem_of_all hhost (by simp)
  refine ⟨?_, by rw [hself]; exact hbracket⟩
  unfold hostPort
  dsimp only
  rw [hself, if_neg hbracket]
  unfold portText
  split_ifs with hnil
  · rw [hnil, List.append_nil, beforeFirst_self hcolon, afterFirst_nil hcolon]
  · rw [beforeFirst_append _ hcolon, afterFirst_append _ hcolon]

/-- A host in brackets, and its port. -/
theorem hostPort_bracketed (host : List Char) {port : List Char} (hhost : ∀ c ∈ host, c ∉ ['@', '[', ']']) (hport : ∀ c ∈ port, c.isDigit = true) :
    hostPort ('[' :: host ++ [']'] ++ portText port) = (host, port) ∧
      '[' ∈ afterLast '@' ('[' :: host ++ [']'] ++ portText port) := by
  have hall : ∀ c ∈ '[' :: host ++ [']'] ++ portText port, c ≠ '@' := by
    rintro c hc rfl
    rcases List.mem_append.1 hc with hc | hc
    · rcases List.mem_append.1 hc with hc | hc
      · rcases List.mem_cons.1 hc with hc | hc
        · revert hc
          decide
        · exact hhost '@' hc (by simp)
      · revert hc
        decide
    · unfold portText at hc
      split_ifs at hc
      · cases hc
      · rcases List.mem_cons.1 hc with hc | hc
        · revert hc
          decide
        · exact digit_notMem (hport '@' hc) (by simp)
  have hself : afterLast '@' ('[' :: host ++ [']'] ++ portText port) = '[' :: host ++ [']'] ++ portText port :=
    afterLast_self fun hmem => hall '@' hmem rfl
  have hmem : '[' ∈ '[' :: host ++ [']'] ++ portText port := by simp
  have hclose : ']' ∉ host := notMem_of_all hhost (by simp)
  have hinner : afterFirst '[' ('[' :: host ++ [']'] ++ portText port) = host ++ ']' :: portText port := by
    have hsplit : '[' :: host ++ [']'] ++ portText port = [] ++ '[' :: (host ++ ']' :: portText port) := by simp
    rw [hsplit, afterFirst_append _ (by simp)]
  refine ⟨?_, by rw [hself]; exact hmem⟩
  unfold hostPort
  dsimp only
  rw [hself, if_pos hmem, hinner, beforeFirst_append _ hclose, afterFirst_append _ hclose]
  unfold portText
  split_ifs with hnil
  · rw [hnil, afterFirst_nil (by simp)]
  · have hsplit : ':' :: port = [] ++ ':' :: port := rfl
    rw [hsplit, afterFirst_append _ (by simp)]

theorem portNumber_digits {port : List Char} (hport : ∀ c ∈ port, c.isDigit = true) :
    portNumber port = some (if port = [] then none else some (Nat.ofDigitChars 10 port 0)) := by
  unfold portNumber
  split_ifs with hnil hall
  · rfl
  · rfl
  · exact absurd (List.all_eq_true.2 hport) hall

end Texts

/-! ### The two requests -/

section Requests

variable {lib : Library} {env : Env} {client : Client} {jobs : List Job} {u : BaseUrl} {pin : Pin}

namespace BaseUrl

/-- What is after the authority of the endpoint. -/
def after (u : BaseUrl) : List Char := rstrip (· = '/') u.path ++ "/api_jsonrpc.php".toList

/-- The number of the port, if there is one. -/
def number (u : BaseUrl) : Option ℕ := if u.port = [] then none else some (Nat.ofDigitChars 10 u.port 0)

theorem authority_chars (u : BaseUrl) : ∀ c ∈ u.authority, c ∉ ['/', '?', '#'] := by
  intro c hc
  unfold authority at hc
  rcases List.mem_append.1 hc with hc | hc
  · have hhost : ∀ c ∈ u.host, c ∉ ['/', '?', '#'] := fun c hc hmem =>
      (u.host_chars c hc).2.1 (by revert hmem; simp; tauto)
    split_ifs at hc
    · rcases List.mem_append.1 hc with hc | hc
      · rcases List.mem_cons.1 hc with rfl | hc
        · decide
        · exact hhost c hc
      · obtain rfl := List.mem_singleton.1 hc
        decide
    · exact hhost c hc
  · unfold portText at hc
    split_ifs at hc
    · cases hc
    · rcases List.mem_cons.1 hc with rfl | hc
      · decide
      · exact fun hmem => digit_notMem (u.port_digits c hc) (by revert hmem; simp; tauto)

/-- The authority does not end in a slash. -/
theorem authority_last (u : BaseUrl) : ∃ c, u.authority.getLast? = some c ∧ c ≠ '/' := by
  have hne : u.authority ≠ [] := by
    unfold authority
    intro hnil
    have hhost := (List.append_eq_nil_iff.1 hnil).1
    split_ifs at hhost
    · cases hhost
    · exact u.host_ne hhost
  refine ⟨u.authority.getLast hne, List.getLast?_eq_some_getLast hne, fun heq => ?_⟩
  exact u.authority_chars _ (List.getLast_mem hne) (by rw [heq]; simp)

theorem endpoint_toList (u : BaseUrl) : u.endpoint.toList = assemble u.authority u.after := by
  obtain ⟨c, hlast, hc⟩ := u.authority_last
  have hfront : ("https://".toList ++ u.authority).getLast? = some c := by
    rw [List.getLast?_append, hlast]
    rfl
  unfold endpoint text after
  rw [String.toList_append, String.toList_ofList, assemble_def, rstrip_append hfront (decide_eq_false hc), assemble_def,
    List.append_assoc]

theorem path_rstrip (u : BaseUrl) : (rstrip (· = '/') u.path = [] ∨ (rstrip (· = '/') u.path).head? = some '/') ∧
    ∀ c ∈ rstrip (· = '/') u.path, c ∉ ['?', '#'] := by
  have hpre := rstrip_sublist_prefix (· = '/') u.path
  refine ⟨?_, fun c hc => (u.path_chars c (hpre.subset hc)).2⟩
  obtain ⟨tail, htail⟩ := hpre
  cases hstripped : rstrip (· = '/') u.path with
  | nil => exact Or.inl rfl
  | cons c rest =>
    right
    rw [hstripped] at htail
    rcases u.path_head with hnil | hhead
    · rw [hnil] at htail
      cases htail
    · rw [← htail] at hhead
      exact hhead

theorem after_head (u : BaseUrl) : u.after = [] ∨ u.after.head? = some '/' := by
  right
  unfold after
  rcases u.path_rstrip.1 with hnil | hhead
  · rw [hnil]
    rfl
  · rw [List.head?_append, hhead]
    rfl

theorem hostPort_authority (u : BaseUrl) : hostPort u.authority = (u.host, u.port) ∧
    ('[' ∈ afterLast '@' u.authority ↔ u.bracketed = true) := by
  unfold authority
  cases hbracketed : u.bracketed with
  | true =>
    obtain ⟨hparts, hmem⟩ := hostPort_bracketed u.host
      (fun c hc hmem => (u.host_chars c hc).2.1 (by revert hmem; simp; tauto)) u.port_digits
    exact ⟨hparts, fun _ => rfl, fun _ => hmem⟩
  | false =>
    obtain ⟨hparts, hnot⟩ := hostPort_plain u.host (fun c hc hmem => by
      have hchars := u.host_chars c hc
      have hmore := hchars.2.2 hbracketed
      revert hmem
      simp at hchars hmore ⊢
      tauto) u.port_digits
    exact ⟨hparts, fun hmem => absurd hmem hnot, nofun⟩

theorem netloc_endpoint (u : BaseUrl) : netloc (urlparse_scheme u.endpoint.toList).2 = u.authority := by
  rw [u.endpoint_toList, netloc_assemble u.authority_chars u.after_head]

theorem urlparse_port_endpoint (u : BaseUrl) : urlparse_port u.endpoint.toList = some u.number := by
  unfold urlparse_port
  rw [u.netloc_endpoint, u.hostPort_authority.1, portNumber_digits u.port_digits]
  unfold number
  split_ifs
  · rfl
  · dsimp only
    rw [if_pos u.port_range]

end BaseUrl

/-- The `Host` header of the client. -/
def ownHost (bracketed : Bool) (name : String) (number : Option ℕ) : String :=
  (if bracketed = true then "[" ++ name ++ "]" else name) ++
    if number.getD 443 = 443 then "" else ":" ++ Nat.repr (number.getD 443)

/-- A request to a URL whose authority is a host and a port. -/
theorem post_assemble {authority after host port : List Char} (bracketed : Bool)
    (hauthority : ∀ c ∈ authority, c ∉ ['/', '?', '#']) (hafter : after = [] ∨ after.head? = some '/')
    (hparts : hostPort authority = (host, port)) (hbracketed : '[' ∈ afterLast '@' authority ↔ bracketed = true)
    (hport : ∀ c ∈ port, c.isDigit = true) (header sni : Option String) :
    client.post (assemble authority after) header sni =
      (if bracketed = true then some (String.ofList host) else client.encode_host (String.ofList host)).bind fun name =>
        let number := if port = [] then none else some (Nat.ofDigitChars 10 port 0)
        if client.header (header.getD (ownHost bracketed name number)) then
          some ⟨name, number.getD 443, client.target (String.ofList after), header.getD (ownHost bracketed name number),
            sni.getD name⟩
        else none := by
  unfold Client.post
  dsimp only
  rw [netloc_assemble hauthority hafter, afterNetloc_assemble hauthority hafter, hparts, portNumber_digits hport]
  simp only [hbracketed]
  cases (if bracketed = true then some (String.ofList host) else client.encode_host (String.ofList host)) with
  | none => rfl
  | some name => rfl

theorem post_plain (client : Client) (u : BaseUrl) : client.post u.endpoint.toList none none =
    (if u.bracketed = true then some (String.ofList u.host) else client.encode_host (String.ofList u.host)).bind fun name =>
      if client.header (ownHost u.bracketed name u.number) then
        some ⟨name, u.number.getD 443, client.target (String.ofList u.after), ownHost u.bracketed name u.number, name⟩
      else none := by
  rw [u.endpoint_toList, post_assemble u.bracketed u.authority_chars u.after_head u.hostPort_authority.1 u.hostPort_authority.2 u.port_digits]
  rfl

/-- The digits of the port of a pinned URL. -/
def pinnedPort (u : BaseUrl) : List Char := if u.number.getD 0 = 0 then [] else Nat.toDigits 10 (u.number.getD 0)

theorem pinnedPort_digits (u : BaseUrl) : ∀ c ∈ pinnedPort u, c.isDigit = true := by
  intro c hc
  unfold pinnedPort at hc
  split_ifs at hc
  · cases hc
  · exact Nat.isDigit_of_mem_toDigits (by omega) (by omega) hc

theorem pinned_url_endpoint (u : BaseUrl) (ip : String) :
    pinned_url u.endpoint.toList ip = some (assemble (ip.toList ++ portText (pinnedPort u)) u.after) := by
  have hport : (if u.number.getD 0 = 0 then [] else ':' :: Nat.toDigits 10 (u.number.getD 0)) = portText (pinnedPort u) := by
    unfold portText pinnedPort
    by_cases hzero : u.number.getD 0 = 0
    · rw [if_pos hzero, if_pos (if_pos hzero)]
    · rw [if_neg hzero, if_neg hzero, if_neg Nat.toDigits_ne_nil]
  have hpath : urlparse_path u.endpoint.toList = u.after := by
    rw [u.endpoint_toList]
    exact urlparse_path_assemble u.authority_chars u.path_rstrip.1 u.path_rstrip.2
  unfold pinned_url
  rw [u.urlparse_port_endpoint, Option.map_some, hpath]
  dsimp only
  rw [hport, u.endpoint_toList, urlparse_scheme_assemble, assemble_def]
  simp

/-- A pinned URL with an address of version 6 is none. -/
theorem post_v6 {ip : IpAddress} (hip : Textual ip) (hv6 : ip.v6 = true) (header sni : Option String) :
    client.post (assemble (ip.text.toList ++ portText (pinnedPort u)) u.after) header sni = none := by
  obtain ⟨hcount, hchars⟩ := hip.v6 hv6
  have hauthority : ∀ c ∈ ip.text.toList ++ portText (pinnedPort u), c ∉ ['/', '?', '#', '@', '['] := by
    intro c hc
    rcases List.mem_append.1 hc with hc | hc
    · exact fun hmem => hchars c hc (by revert hmem; simp; tauto)
    · unfold portText at hc
      split_ifs at hc
      · cases hc
      · rcases List.mem_cons.1 hc with rfl | hc
        · decide
        · exact fun hmem => digit_notMem (pinnedPort_digits u c hc) (by revert hmem; simp; tauto)
  have hself : afterLast '@' (ip.text.toList ++ portText (pinnedPort u)) = ip.text.toList ++ portText (pinnedPort u) :=
    afterLast_self (notMem_of_all hauthority (by simp))
  have hbracket : '[' ∉ ip.text.toList ++ portText (pinnedPort u) := notMem_of_all hauthority (by simp)
  -- What is after the first colon has another one.
  have hcolon : ':' ∈ (hostPort (ip.text.toList ++ portText (pinnedPort u))).2 := by
    unfold hostPort
    dsimp only
    rw [hself, if_neg hbracket]
    show ':' ∈ afterFirst ':' _
    have hmem : ':' ∈ ip.text.toList := List.count_pos_iff.1 (by omega)
    obtain ⟨front, back, hsplit, hfront⟩ := List.eq_append_cons_of_mem hmem
    rw [hsplit, List.append_assoc, List.cons_append, afterFirst_append _ hfront]
    rw [hsplit, List.count_append, List.count_cons_self, List.count_eq_zero_of_not_mem hfront] at hcount
    exact List.mem_append_left _ (List.count_pos_iff.1 (by omega))
  have hnone : portNumber (hostPort (ip.text.toList ++ portText (pinnedPort u))).2 = none := by
    unfold portNumber
    rw [if_neg (List.ne_nil_of_mem hcolon), if_neg fun hall => ?_]
    exact absurd (List.all_eq_true.1 hall ':' hcolon) (by decide)
  unfold Client.post
  dsimp only
  rw [netloc_assemble (fun c hc hmem => hauthority c hc (by revert hmem; simp; tauto)) u.after_head, hnone]

/-- A pinned URL with an address of version 4. -/
theorem post_v4 {ip : IpAddress} (hip : Textual ip) (hv4 : ip.v6 = false) (hdotted : client.encode_host ip.text = some ip.text)
    (host : String) : client.post (assemble (ip.text.toList ++ portText (pinnedPort u)) u.after) (some host) (some host) =
      if client.header host then
        some ⟨ip.text, if u.number.getD 0 = 0 then 443 else u.number.getD 0, client.target (String.ofList u.after), host, host⟩
      else none := by
  obtain ⟨-, hchars⟩ := hip.v4 hv4
  have hdots : ∀ c ∈ ip.text.toList, c ∉ ['/', '?', '#', '@', '[', ']', ':'] := by
    intro c hc
    rcases hchars c hc with hdigit | rfl
    · exact digit_notMem hdigit
    · decide
  have hauthority : ∀ c ∈ ip.text.toList ++ portText (pinnedPort u), c ∉ ['/', '?', '#'] := by
    intro c hc hmem
    rcases List.mem_append.1 hc with hc | hc
    · exact hdots c hc (by revert hmem; simp; tauto)
    · unfold portText at hc
      split_ifs at hc
      · cases hc
      · rcases List.mem_cons.1 hc with rfl | hc
        · revert hmem
          decide
        · exact digit_notMem (pinnedPort_digits u c hc) (by revert hmem; simp; tauto)
  obtain ⟨hparts, hbracket⟩ := hostPort_plain ip.text.toList
    (fun c hc hmem => hdots c hc (by revert hmem; simp; tauto)) (pinnedPort_digits u)
  rw [post_assemble false hauthority u.after_head hparts ⟨fun hmem => absurd hmem hbracket, nofun⟩
    (pinnedPort_digits u), if_neg nofun, String.ofList_toList, hdotted]
  have hport : (if pinnedPort u = [] then none else some (Nat.ofDigitChars 10 (pinnedPort u) 0)).getD 443 =
      if u.number.getD 0 = 0 then 443 else u.number.getD 0 := by
    unfold pinnedPort
    by_cases hzero : u.number.getD 0 = 0
    · rw [if_pos hzero, if_pos rfl, if_pos hzero]
      rfl
    · rw [if_neg hzero, if_neg Nat.toDigits_ne_nil, if_neg hzero]
      exact Nat.ofDigitChars_ten_toDigits
  dsimp only [Option.bind_some, Option.getD_some]
  rw [hport]

/-! ### Pins -/

/-- The pin of an endpoint is from an admission of that endpoint. -/
theorem pin_admitted {p : Platform} {url : String} (jobs : List Job)
    (h : (jobs.foldl (step lib env) p).pins url = some pin) : p.pins url = some pin ∨
      ∃ base_url answer, Job.admission base_url answer ∈ jobs ∧ admit_zabbix_api lib env base_url answer = .ok (url, some pin) := by
  induction jobs generalizing p with
  | nil => exact Or.inl h
  | cons job jobs ih =>
    rcases ih h with hstep | ⟨base_url, answer, hmem, hadmit⟩
    · cases job with
      | admission base_url answer =>
        have hstep : (admission lib env p (.admission base_url answer)).pins url = some pin := hstep
        unfold admission at hstep
        dsimp only at hstep
        split at hstep
        · exact Or.inl hstep
        · exact Or.inl hstep
        · rename_i api_url pin' hadmit
          by_cases heq : url = api_url
          · subst heq
            dsimp only at hstep
            rw [Function.update_self] at hstep
            exact Or.inr ⟨base_url, answer, List.mem_cons_self, Option.some.inj hstep ▸ hadmit⟩
          · dsimp only at hstep
            rw [Function.update_of_ne heq] at hstep
            exact Or.inl hstep
      | rpc | webhook | slack | cert => exact Or.inl hstep
    · exact Or.inr ⟨base_url, answer, List.mem_cons_of_mem _ hmem, hadmit⟩

variable {answer : Option (List IpAddress)}

theorem admit_addresses_resolved {host : String} (h : admit_addresses lib env host answer = .ok (some pin)) :
    resolve lib host answer = .ok pin.resolved := by
  unfold admit_addresses at h
  split at h
  · split_ifs at h
    cases Except.ok.inj h
  · rename_i ips hips
    split at h
    · cases h
    · obtain ⟨ip, -, rfl⟩ := Option.map_eq_some_iff.1 (Except.ok.inj h)
      exact hips

/-- The addresses of a host are addresses. -/
theorem resolve_textual {host : String} {ips : List IpAddress}
    (hliteral : ∀ text ip, lib.ip_address text = some ip → Textual ip)
    (hanswer : ∀ infos, answer = some infos → ∀ ip ∈ infos, Textual ip) (h : resolve lib host answer = .ok ips) :
    ∀ ip ∈ ips, Textual ip := by
  unfold resolve at h
  split at h
  · rename_i ip hip
    rw [← Except.ok.inj h]
    intro ip' hmem
    rw [List.mem_singleton.1 hmem]
    exact hliteral host ip hip
  · split at h
    · cases h
    · rename_i infos
      split_ifs at h
      rw [← Except.ok.inj h]
      exact fun ip hip => hanswer infos rfl ip (List.mem_eraseDups.1 hip)

/-- The host of a pin is that of the endpoint. -/
theorem admit_pin {base_url url : String} (h : admit_zabbix_api lib env base_url answer = .ok (url, some pin)) :
    (∃ name, urlparse_hostname lib url.toList = some name ∧ lib.lower name = pin.host) ∧
      ∃ host, resolve lib host answer = .ok pin.resolved := by
  obtain ⟨host, hhost, h⟩ := bind_ok_iff.1 h
  obtain ⟨pin', hpin, h⟩ := bind_ok_iff.1 h
  obtain ⟨rfl, rfl⟩ := Prod.mk.inj (Except.ok.inj h)
  obtain ⟨-, name, hname, hlower⟩ := admit_host_ok hhost
  obtain ⟨hsame, -, -⟩ := (admit_addresses_ok hpin).2 pin rfl
  refine ⟨⟨name, ?_, hlower.trans hsame.symm⟩, host, admit_addresses_resolved hpin⟩
  rw [String.toList_append, String.toList_ofList]
  exact hname

/-- The host name of an endpoint. -/
theorem hostname_endpoint (hbracketed : u.bracketed = false) :
    urlparse_hostname lib u.endpoint.toList = some (lib.lower (String.ofList u.host)) := by
  have hhost : hostinfo u.authority = u.host := by
    have hparts := u.hostPort_authority
    have hnot : '[' ∉ afterLast '@' u.authority := fun hmem => by
      have hb := hparts.2.1 hmem
      rw [hbracketed] at hb
      cases hb
    have hfirst := congrArg Prod.fst hparts.1
    unfold hostPort at hfirst
    unfold hostinfo
    dsimp only at hfirst ⊢
    rw [if_neg hnot] at hfirst ⊢
    exact hfirst
  have hzone : '%' ∉ u.host := fun hmem => ((u.host_chars '%' hmem).2.2 hbracketed) (by simp)
  unfold urlparse_hostname
  rw [u.netloc_endpoint, hhost]
  dsimp only
  rw [if_neg u.host_ne, beforeFirst_self hzone, List.drop_length]
  exact congrArg some (String.append_empty ..)

/-! ### The result -/

theorem number_getD (h : u.number.getD 443 = 443) : u.DefaultPort := by
  unfold BaseUrl.number at h
  split_ifs at h with hnil
  · exact Or.inl hnil
  · exact Or.inr h

theorem BaseUrl.DefaultPort.number (h : u.DefaultPort) : u.number.getD 443 = 443 ∧
    (if u.number.getD 0 = 0 then 443 else u.number.getD 0) = 443 := by
  unfold BaseUrl.number
  rcases h with hnil | hport
  · rw [if_pos hnil]
    exact ⟨rfl, rfl⟩
  · by_cases hnil : u.port = []
    · rw [if_pos hnil]
      exact ⟨rfl, rfl⟩
    · rw [if_neg hnil, hport]
      exact ⟨rfl, rfl⟩

/-- The client's own header is the host name alone, and only then, if there are no brackets and there is no other port. -/
theorem ownHost_eq_iff {bracketed : Bool} {name : String} {number : Option ℕ} :
    ownHost bracketed name number = name ↔ bracketed = false ∧ number.getD 443 = 443 := by
  unfold ownHost
  constructor
  · intro h
    have hlength := congrArg String.length h
    cases bracketed with
    | true =>
      have hopen : ("[" : String).length = 1 := by decide
      rw [if_pos rfl, String.length_append, String.length_append, String.length_append, hopen] at hlength
      omega
    | false =>
      refine ⟨rfl, ?_⟩
      rw [if_neg nofun, String.length_append] at hlength
      split_ifs at hlength with hport
      · exact hport
      · have hcolon : (":" : String).length = 1 := by decide
        rw [String.length_append, hcolon] at hlength
        omega
  · rintro ⟨rfl, hport⟩
    rw [if_neg nofun, if_pos hport]
    exact String.append_empty ..

/-- **Key result**: the pinned call of an endpoint is the plain request at an address that an admission of the endpoint has
screened, if and only if the address is one of version 4, there is no other port than 443, and the client leaves the host name
as the admission has it. -/
theorem pinned_as_plain_iff (lib : Library) (env : Env) (client : Client) (jobs : List Job) (u : BaseUrl) (pin : Pin)
    (hdoc : Documented lib client jobs) (hpin : (jobs.foldl (step lib env) .start).pins u.endpoint = some pin) :
    PinnedAsPlain lib env client jobs u.endpoint pin ↔ Kept lib client u pin := by
  obtain ⟨base_url, answer, hmem, hadmit⟩ := (pin_admitted jobs hpin).resolve_left nofun
  obtain ⟨⟨name, hname, hlower⟩, host, hresolve⟩ := admit_pin hadmit
  obtain ⟨-, hpublic, hresolved⟩ := (admit_ok hadmit).pinned pin rfl
  have htextual : Textual pin.ip := by
    refine resolve_textual hdoc.literal (fun infos hinfos => ?_) hresolve pin.ip hresolved
    exact hdoc.answers base_url infos (hinfos ▸ hmem)
  have hrpc : rpc_request client (jobs.foldl (step lib env) .start).pins u.endpoint =
      client.post (assemble (pin.ip.text.toList ++ portText (pinnedPort u)) u.after) (some pin.host) (some pin.host) := by
    unfold rpc_request
    rw [hpin]
    dsimp only
    rw [pinned_url_endpoint, Option.bind_some]
  have hplain := post_plain client u
  constructor
  · rintro ⟨-, -, sent, plain, hsent, hpost, -, -, -, hhost, hserver⟩
    rw [hrpc] at hsent
    rw [hplain] at hpost
    have hv4 : pin.ip.v6 = false := by
      by_contra hv6
      rw [post_v6 htextual (eq_true_of_ne_false hv6)] at hsent
      cases hsent
    rw [post_v4 htextual hv4 (hdoc.dotted pin.ip htextual hv4)] at hsent
    obtain ⟨-, hsent⟩ := Option.ite_none_right_eq_some.1 hsent
    obtain ⟨name', hname', hpost⟩ := Option.bind_eq_some_iff.1 hpost
    obtain ⟨-, hpost⟩ := Option.ite_none_right_eq_some.1 hpost
    obtain rfl := Option.some.inj hsent
    obtain rfl := Option.some.inj hpost
    -- The server name is the client's host, and so is the header.
    have hserver : pin.host = name' := hserver
    have hown : ownHost u.bracketed name' u.number = name' := by
      rw [← hserver]
      exact hserver ▸ hhost.symm
    obtain ⟨hbracketed, hport⟩ := ownHost_eq_iff.1 hown
    refine ⟨hbracketed, hv4, number_getD hport, ?_⟩
    rw [hostname_endpoint hbracketed] at hname
    rw [hbracketed, if_neg nofun] at hname'
    rw [hname', ← hserver, ← hlower, ← Option.some.inj hname]
  · rintro ⟨hbracketed, hv4, hport, hencode⟩
    refine ⟨⟨base_url, answer, hmem, hadmit⟩, ⟨hresolved, hpublic⟩, ?_⟩
    rw [hostname_endpoint hbracketed] at hname
    rw [Option.some.inj hname, hlower] at hencode
    have hheader := hdoc.encoded _ _ hencode
    have hown : ownHost u.bracketed pin.host u.number = pin.host := ownHost_eq_iff.2 ⟨hbracketed, hport.number.1⟩
    refine ⟨⟨pin.ip.text, if u.number.getD 0 = 0 then 443 else u.number.getD 0, client.target (String.ofList u.after), pin.host,
      pin.host⟩, ⟨pin.host, u.number.getD 443, client.target (String.ofList u.after), pin.host, pin.host⟩, ?_, ?_, rfl, ?_, rfl,
      rfl, rfl⟩
    · rw [hrpc, post_v4 htextual hv4 (hdoc.dotted pin.ip htextual hv4), if_pos hheader]
    · rw [hplain, hbracketed, if_neg nofun, hencode, Option.bind_some, ← hbracketed, hown, if_pos hheader]
    · show (if u.number.getD 0 = 0 then 443 else u.number.getD 0) = u.number.getD 443
      rw [hport.number.1, hport.number.2]

end Requests

/-! ### Admissions -/

/-- A client that leaves names and paths as they are. -/
def plainClient : Client := ⟨some, id, fun _ => true⟩

theorem documented_plain (base_url : String) : Documented ascii plainClient [.admission base_url (some [publicIp])] := by
  refine ⟨nofun, fun url ips hmem ip hip => ?_, fun _ _ _ => rfl, fun _ _ _ => rfl⟩
  obtain ⟨-, hips⟩ := Job.admission.inj (List.mem_singleton.1 hmem)
  obtain rfl := Option.some.inj hips
  obtain rfl := List.mem_singleton.1 hip
  exact ⟨fun _ => by simp [publicIp], nofun⟩

/-- Every host is allowed. -/
def anyHost : Env := ⟨"", "true", ""⟩

/-- An address of version 6. -/
def publicIp6 : IpAddress := ⟨"2001:4860::8888", true, false, false, false, false, false, false⟩

/-- A provider's URL. -/
def zabbixUrl : BaseUrl where
  host := "zabbix.example".toList
  bracketed := false
  port := []
  path := "/zabbix/".toList
  host_ne := by decide
  host_chars := by simp
  port_digits := by simp
  port_range := by decide
  path_head := by decide
  path_chars := by simp

/-- The same with a port. -/
def zabbixUrl8443 : BaseUrl := { zabbixUrl with port := "8443".toList, port_digits := by simp, port_range := by decide }

/-- The pinned call at an address of version 4 is the plain request. -/
theorem pinned_as_plain_v4 : PinnedAsPlain ascii anyHost plainClient [.admission "https://zabbix.example/zabbix/" (some [publicIp])]
    zabbixUrl.endpoint ⟨"zabbix.example", publicIp, [publicIp]⟩ :=
  (pinned_as_plain_iff ascii anyHost plainClient _ zabbixUrl _ (documented_plain _) (by decide +kernel)).2
    ⟨rfl, rfl, Or.inl rfl, by decide +kernel⟩

/-- The `Host` header has no port, and an address of version 6 does not make a URL. -/
theorem pinned_call_differs :
    ¬PinnedAsPlain ascii anyHost plainClient [.admission "https://zabbix.example:8443/zabbix/" (some [publicIp])]
      zabbixUrl8443.endpoint ⟨"zabbix.example", publicIp, [publicIp]⟩ ∧
    ¬PinnedAsPlain ascii anyHost plainClient [.admission "https://zabbix.example/zabbix/" (some [publicIp6, publicIp])]
      zabbixUrl.endpoint ⟨"zabbix.example", publicIp6, [publicIp6, publicIp]⟩ := by
  constructor
  · have hsent : rpc_request plainClient ([Job.admission "https://zabbix.example:8443/zabbix/" (some [publicIp])].foldl
        (step ascii anyHost) .start).pins zabbixUrl8443.endpoint =
        some ⟨"192.0.32.10", 8443, "/zabbix/api_jsonrpc.php", "zabbix.example", "zabbix.example"⟩ := by decide +kernel
    have hplain : plainClient.post zabbixUrl8443.endpoint.toList none none =
        some ⟨"zabbix.example", 8443, "/zabbix/api_jsonrpc.php", "zabbix.example:8443", "zabbix.example"⟩ := by decide +kernel
    rintro ⟨-, -, sent, plain, hsent', hplain', -, -, -, hhost, -⟩
    obtain rfl := Option.some.inj (hsent.symm.trans hsent')
    obtain rfl := Option.some.inj (hplain.symm.trans hplain')
    exact absurd hhost (by decide)
  · have hnone : rpc_request plainClient ([Job.admission "https://zabbix.example/zabbix/" (some [publicIp6, publicIp])].foldl
        (step ascii anyHost) .start).pins zabbixUrl.endpoint = none := by decide +kernel
    rintro ⟨-, -, sent, plain, hsent', -⟩
    rw [hnone] at hsent'
    cases hsent'

end JLMirror.Egress
