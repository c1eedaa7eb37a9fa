import JLMirror.Egress.Admission
import JLMirror.Foundations.Url

/-!
# Outbound connections

Four jobs open connections to destinations that a tenant's data names: calls to a provider
(`providers/zabbix.py`), webhooks of automation scripts (`workers/automation_runner.py`), Slack webhooks of escalation
steps (`workers/escalation.py`), and checks of certificates (`workers/cert_checker.py`). The egress policy is to hold
of each of them.

## The model

* `Platform` is a process: its pins, the endpoints that it has admitted, and the connections that it has opened. A
  run is a list of jobs, each with what the network answers: `Dial` for a connection, `Exchange` for a request.
* `requests` are the requests of `urlopen`, with the redirects that it follows.

## What is proved

* `inv_step`: what is pinned was screened, and an endpoint without a pin is an intranet's.
* **Key result** (`lawful_iff`): every connection of a run meets the policy if and only if each request of its
  webhooks, its escalation steps and its certificate checks is to a host that does not resolve or that the admission
  would have accepted. Calls to a provider always meet it.

## Honest scope

Proxies that the environment names are left out, as is what the requests and replies carry.
-/

namespace JLMirror.Egress

open Foundations

/-! ### Connections -/

/-- A connection: the host that was asked for, the addresses that it resolved to, and the one connected to. -/
structure Connection where
  host : String
  resolved : List IpAddress
  address : IpAddress
  deriving DecidableEq

/-- What the network answers to a connection: the addresses of the host, if it has any, and how many of them refuse
before one accepts. -/
structure Dial where
  answer : Option (List IpAddress)
  refused : ℕ

/-- The addresses of the host. -/
def Dial.addresses (dial : Dial) : List IpAddress := dial.answer.getD []

/-- `socket.create_connection`: the addresses are tried in order. -/
def create_connection (host : String) (dial : Dial) : List Connection :=
  (dial.addresses.take (dial.refused + 1)).map fun ip => ⟨host, dial.addresses, ip⟩

/-! ### Requests of the standard library -/

/-- A reply: its status, and the URL that its `Location` names, joined to the request's. -/
structure Response where
  status : ℕ
  location : Option String

/-- What the network answers to a request. -/
structure Exchange where
  dial : Dial
  /-- The reply, if one comes. -/
  response : Option Response

/-- Some address accepts. -/
def Dial.accepted (dial : Dial) : Bool := dial.refused < dial.addresses.length

section Requests

variable (lib : Library)

/-- `urllib.parse.unwrap`. -/
def unwrap (url : String) : String :=
  let url := strip lib url
  let url := if url.toList.head? = some '<' ∧ url.toList.getLast? = some '>' then
    strip lib (String.ofList (url.toList.drop 1).dropLast) else url
  if "URL:".toList.isPrefixOf url.toList then strip lib (String.ofList (url.toList.drop 4)) else url

/-- The host that `urllib.request` and `http.client` take from a URL. -/
def request_host (url : String) : String :=
  let parsed := urlparse_scheme url.toList
  let authority := Url.unquote (netloc parsed.2)
  let port := afterLast ':' authority
  let host :=
    if ':' ∈ authority ∧ ']' ∉ port then authority.take (authority.length - port.length - 1) else authority
  -- only the handler of FTP takes the user off
  let host := if parsed.1 = "ftp".toList then afterLast '@' host else host
  String.ofList (if host.head? = some '[' ∧ host.getLast? = some ']' then (host.drop 1).dropLast else host)

/-- The default opener connects for this URL. -/
def opens (url : String) : Bool :=
  (urlparse_scheme url.toList).1 ∈ ["http".toList, "https".toList, "ftp".toList]

/-- `HTTPRedirectHandler.redirect_request` follows the status. -/
def redirects (method : String) (status : ℕ) : Bool :=
  (status ∈ [301, 302, 303, 307, 308] ∧ method ∈ ["GET", "HEAD"]) ∨ (status ∈ [301, 302, 303] ∧ method = "POST")

/-- `HTTPRedirectHandler`: the URL that is requested next. The limits are `max_repeats` and `max_redirections`. -/
def follow (method : String) (visited : List String) (exchange : Exchange) : Option String :=
  if exchange.dial.accepted then
    exchange.response.bind fun response =>
      if redirects method response.status then
        response.location.filter fun url =>
          (opens url || (urlparse_scheme url.toList).1 = []) && visited.count url < 4 && visited.eraseDups.length < 10
      else none
  else none

/-- The requests of `urlopen`, each with what the network answers to it. -/
def requests (method : String) (visited : List String) (url : String) : List Exchange → List (String × Exchange)
  | [] => []
  | exchange :: rest =>
    if opens url then
      (url, exchange) ::
        match follow method visited exchange with
        | some next => requests "GET" (next :: visited) next rest
        | none => []
    else []

/-- `urlopen`. -/
def urlopen (method url : String) (exchanges : List Exchange) : List (String × Exchange) :=
  requests method [] (unwrap lib url) exchanges

/-! ### The jobs -/

/-- The requests of `_execute_webhook`. -/
def execute_webhook (url method : Option String) (exchanges : List Exchange) : List (String × Exchange) :=
  let url := strip lib (url.getD "")
  if url = "" ∨ "https://".toList.isPrefixOf url.toList = false then []
  else urlopen lib (lib.upper (method.getD "POST")) url exchanges

/-- The requests of `_dispatch_slack`. -/
def dispatch_slack (webhook_url : String) (exchanges : List Exchange) : List (String × Exchange) :=
  if webhook_url = "" then [] else urlopen lib "POST" webhook_url exchanges

/-- A process: `_pins`, the endpoints that its callers hold, and the connections it has opened. -/
structure Platform where
  pins : String → Option Pin
  endpoints : List String
  log : List Connection

/-- What the process does. -/
inductive Job where
  /-- A provider's base URL passes the admission. -/
  | admission (base_url : String) (answer : Option (List IpAddress))
  /-- A call to an admitted endpoint. -/
  | rpc (api_url : String) (dial : Dial)
  /-- A script's webhook. -/
  | webhook (url method : Option String) (exchanges : List Exchange)
  /-- An escalation step's webhook. -/
  | slack (webhook_url : String) (exchanges : List Exchange)
  /-- A domain's certificate. -/
  | cert (domain : String) (dial : Dial)

/-- The connection of `_rpc`. A pinned URL has the address in the place of the host, without the brackets that one of
version 6 needs, and the client does not parse it then. No redirect is followed. -/
def rpc_connections (pins : String → Option Pin) (api_url : String) (dial : Dial) : List Connection :=
  match pins api_url with
  | some pin => if pin.ip.v6 then [] else [⟨pin.host, pin.resolved, pin.ip⟩]
  | none => create_connection (lib.lower ((urlparse_hostname lib api_url.toList).getD "")) dial

/-- The connections of some requests. -/
def connections (made : List (String × Exchange)) : List Connection :=
  made.flatMap fun r => create_connection (lib.lower (request_host r.1)) r.2.dial

/-- The connections of a job. -/
def job_connections (p : Platform) : Job → List Connection
  | .admission _ _ => []
  | .rpc api_url dial => if api_url ∈ p.endpoints then rpc_connections lib p.pins api_url dial else []
  | .webhook url method exchanges => connections lib (execute_webhook lib url method exchanges)
  | .slack webhook_url exchanges => connections lib (dispatch_slack lib webhook_url exchanges)
  | .cert domain dial => create_connection (lib.lower domain) dial

variable (env : Env)

/-- An admission: the endpoint, and its pin if there is one. -/
def admission (p : Platform) : Job → Platform
  | .admission base_url answer =>
    match admit_zabbix_api lib env base_url answer with
    | .error _ => p
    | .ok (api_url, none) => { p with endpoints := api_url :: p.endpoints }
    | .ok (api_url, some pin) =>
      { p with pins := Function.update p.pins api_url (some pin), endpoints := api_url :: p.endpoints }
  | _ => p

/-- What a job does to the process. -/
def step (p : Platform) (job : Job) : Platform :=
  { admission lib env p job with log := p.log ++ job_connections lib p job }

/-- A process that has just started. -/
def Platform.start : Platform := ⟨fun _ => none, [], []⟩

/-! ### The policy -/

/-- The connection meets the policy. -/
def Lawful (c : Connection) : Prop := HostAllowed lib env c.host ∧ Public lib env (c.address :: c.resolved)

instance {c : Connection} : Decidable (Lawful lib env c) := inferInstanceAs (Decidable (_ ∧ _))

/-- The host does not resolve, or the checks of the admission accept it and its addresses. -/
def WouldPass (host : String) (dial : Dial) : Prop :=
  dial.addresses = [] ∨
    (check_host lib env host = .ok () ∧
      (private_mode lib env = true ∨ screen_ips host dial.addresses = .ok ()))

/-- What is asked of a job: nothing of a provider's, and that the others' requests would pass. -/
def Tame : Job → Prop
  | .admission _ _ => True
  | .rpc _ _ => True
  | .webhook url method exchanges =>
    ∀ r ∈ execute_webhook lib url method exchanges, WouldPass lib env (lib.lower (request_host r.1)) r.2.dial
  | .slack webhook_url exchanges =>
    ∀ r ∈ dispatch_slack lib webhook_url exchanges, WouldPass lib env (lib.lower (request_host r.1)) r.2.dial
  | .cert domain dial => WouldPass lib env (lib.lower domain) dial

variable {lib env}

/-! ### What is admitted -/

/-- What is pinned was screened, and an endpoint without a pin is an intranet's. -/
structure Inv (lib : Library) (env : Env) (p : Platform) : Prop where
  pinned : ∀ url pin, p.pins url = some pin →
    HostAllowed lib env pin.host ∧ Public lib env pin.resolved ∧ pin.ip ∈ pin.resolved
  endpoint : ∀ url ∈ p.endpoints, ∃ host, urlparse_hostname lib url.toList = some host ∧
    HostAllowed lib env (lib.lower host)
  unpinned : ∀ url ∈ p.endpoints, p.pins url = none → private_mode lib env = true

theorem inv_start : Inv lib env .start := ⟨fun _ _ h => (nomatch h), fun _ h => (nomatch h), fun _ h => (nomatch h)⟩

theorem inv_admission {p : Platform} (h : Inv lib env p) (job : Job) : Inv lib env (admission lib env p job) := by
  cases job with
  | admission base_url answer =>
    cases hadmit : admit_zabbix_api lib env base_url answer with
    | error e =>
      simp only [admission, hadmit]
      exact h
    | ok admitted =>
      obtain ⟨api_url, pin⟩ := admitted
      have hok := admit_ok hadmit
      have hendpoint : ∀ url ∈ api_url :: p.endpoints, ∃ host, urlparse_hostname lib url.toList = some host ∧
          HostAllowed lib env (lib.lower host) := by
        intro url hurl
        rcases List.mem_cons.1 hurl with rfl | hurl
        · exact hok.endpoint
        · exact h.endpoint url hurl
      cases pin with
      | none =>
        simp only [admission, hadmit]
        exact ⟨h.pinned, hendpoint, fun _ _ _ => hok.unpinned rfl⟩
      | some pin =>
        simp only [admission, hadmit]
        refine ⟨fun url pin' hpin => ?_, hendpoint, fun url hurl hpin => ?_⟩
        · simp only [Function.update_apply] at hpin
          split_ifs at hpin with heq
          · exact hok.pinned pin' hpin
          · exact h.pinned url pin' hpin
        · simp only [Function.update_apply] at hpin
          split_ifs at hpin with heq
          exact h.unpinned url ((List.mem_cons.1 hurl).resolve_left heq) hpin
  | rpc | webhook | slack | cert => exact h

theorem inv_step {p : Platform} (h : Inv lib env p) (job : Job) : Inv lib env (step lib env p job) :=
  ⟨(inv_admission h job).pinned, (inv_admission h job).endpoint, (inv_admission h job).unpinned⟩

/-! ### What is lawful -/

theorem mem_create_connection {host : String} {dial : Dial} {c : Connection} (h : c ∈ create_connection host dial) :
    c.host = host ∧ c.resolved = dial.addresses ∧ c.address ∈ dial.addresses := by
  obtain ⟨ip, hip, rfl⟩ := List.mem_map.1 h
  exact ⟨rfl, rfl, List.mem_of_mem_take hip⟩

/-- The connections to a host are lawful if and only if the admission would have accepted it. -/
theorem create_connection_lawful_iff {host : String} {dial : Dial} :
    (∀ c ∈ create_connection host dial, Lawful lib env c) ↔ WouldPass lib env host dial := by
  unfold WouldPass
  rw [check_host_ok_iff, screen_ok_iff]
  constructor
  · intro hall
    by_cases hnil : dial.addresses = []
    · exact Or.inl hnil
    · obtain ⟨ip, rest, hcons⟩ := List.exists_cons_of_ne_nil hnil
      have hc : Connection.mk host dial.addresses ip ∈ create_connection host dial :=
        List.mem_map.2 ⟨ip, by rw [hcons]; simp, rfl⟩
      obtain ⟨hhost, hpublic⟩ := hall _ hc
      exact Or.inr ⟨hhost, hpublic.imp id fun hall ip hip => hall ip (List.mem_cons_of_mem _ hip)⟩
  · rintro (hnil | ⟨hhost, hpublic⟩) c hc
    · rw [create_connection, hnil] at hc
      simp at hc
    · obtain ⟨rfl, hresolved, haddress⟩ := mem_create_connection hc
      refine ⟨hhost, hpublic.imp id fun hall ip hip => ?_⟩
      rw [hresolved] at hip
      rcases List.mem_cons.1 hip with rfl | hip
      · exact hall _ haddress
      · exact hall ip hip

theorem connections_lawful_iff {made : List (String × Exchange)} :
    (∀ c ∈ connections lib made, Lawful lib env c) ↔
      ∀ r ∈ made, WouldPass lib env (lib.lower (request_host r.1)) r.2.dial := by
  simp only [connections, List.mem_flatMap, ← create_connection_lawful_iff]
  exact ⟨fun h r hr c hc => h c ⟨r, hr, hc⟩, fun h c ⟨r, hr, hc⟩ => h r hr c hc⟩

/-- A call to an admitted endpoint is lawful, whatever the network answers. -/
theorem rpc_lawful {p : Platform} (h : Inv lib env p) {api_url : String} (hadmitted : api_url ∈ p.endpoints)
    (dial : Dial) : ∀ c ∈ rpc_connections lib p.pins api_url dial, Lawful lib env c := by
  intro c hc
  unfold rpc_connections at hc
  cases hpin : p.pins api_url with
  | some pin =>
    obtain ⟨hhost, hpublic, hmem⟩ := h.pinned api_url pin hpin
    rw [hpin] at hc
    simp only at hc
    split_ifs at hc
    · cases hc
    · obtain rfl := List.mem_singleton.1 hc
      refine ⟨hhost, hpublic.imp id fun hall ip hip => ?_⟩
      rcases List.mem_cons.1 hip with rfl | hip
      · exact hall _ hmem
      · exact hall ip hip
  | none =>
    obtain ⟨host, hname, hhost⟩ := h.endpoint api_url hadmitted
    rw [hpin] at hc
    simp only [hname, Option.getD_some] at hc
    exact ⟨(mem_create_connection hc).1 ▸ hhost, Or.inl (h.unpinned api_url hadmitted hpin)⟩

/-- What a job opens is lawful if and only if the job is tame. -/
theorem job_lawful_iff {p : Platform} (h : Inv lib env p) (job : Job) :
    (∀ c ∈ job_connections lib p job, Lawful lib env c) ↔ Tame lib env job := by
  cases job with
  | admission base_url answer => simp [job_connections, Tame]
  | rpc api_url dial =>
    simp only [job_connections, Tame, iff_true]
    split_ifs with hadmitted
    · exact rpc_lawful h hadmitted dial
    · simp
  | webhook url method exchanges => exact connections_lawful_iff
  | slack webhook_url exchanges => exact connections_lawful_iff
  | cert domain dial => exact create_connection_lawful_iff

theorem run_lawful_iff {p : Platform} (h : Inv lib env p) (jobs : List Job) :
    (∀ c ∈ (jobs.foldl (step lib env) p).log, Lawful lib env c) ↔
      (∀ c ∈ p.log, Lawful lib env c) ∧ ∀ job ∈ jobs, Tame lib env job := by
  induction jobs generalizing p with
  | nil => simp
  | cons job jobs ih =>
    have hlog : (step lib env p job).log = p.log ++ job_connections lib p job := rfl
    rw [List.foldl_cons, ih (inv_step h job), hlog, List.forall_mem_append, job_lawful_iff h, List.forall_mem_cons,
      and_assoc]

/-- **Key result.** Every connection of a run meets the policy if and only if each of its jobs is tame. -/
theorem lawful_iff (jobs : List Job) :
    (∀ c ∈ (jobs.foldl (step lib env) .start).log, Lawful lib env c) ↔ ∀ job ∈ jobs, Tame lib env job := by
  rw [run_lawful_iff inv_start]
  exact and_iff_right fun c hc => (nomatch hc)

end Requests

/-- The tables, for ASCII texts that are not addresses. -/
def ascii : Library where
  lower s := String.ofList (s.toList.map Char.toLower)
  lower_empty := by decide
  upper s := String.ofList (s.toList.map Char.toUpper)
  isspace := Char.isWhitespace
  ip_address _ := none

/-- One host is allowed. -/
def oneHost : Env := ⟨"hooks.example", "", ""⟩

/-- An address of the public network. -/
def publicIp : IpAddress := ⟨"192.0.32.10", false, false, false, false, false, false, false⟩

/-- The address of a cloud's metadata service. -/
def metadataIp : IpAddress := ⟨"169.254.169.254", false, true, false, true, false, false, false⟩

/-- A webhook on the allowed host redirects to the metadata service. -/
def redirected : Job :=
  .webhook (some "https://hooks.example/run") none
    [⟨⟨some [publicIp], 0⟩, some ⟨302, some "http://169.254.169.254/latest"⟩⟩,
      ⟨⟨some [metadataIp], 0⟩, none⟩]

/-- The platform connects to the metadata service. -/
theorem redirect_followed : ¬∀ (lib : Library) (env : Env) (jobs : List Job),
    ∀ c ∈ (jobs.foldl (step lib env) .start).log, Lawful lib env c := by
  intro h
  have hmem : (⟨"169.254.169.254", [metadataIp], metadataIp⟩ : Connection) ∈
      ([redirected].foldl (step ascii oneHost) .start).log := by decide
  exact absurd (h _ _ _ _ hmem) (by decide)

end JLMirror.Egress
