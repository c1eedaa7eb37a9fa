import JLMirror.Foundations.Fold

/-!
# Outbound admission

Before the platform calls a provider, the provider's base URL passes the egress policy (`providers/egress.py`): its
host is on an allowlist, and the addresses that the host resolves to are public. The first of them is pinned
(`providers/pins.py`), and the transport connects to the pin (`providers/zabbix.py`), so that no second lookup can
answer differently.

## The model

* `Library` holds what the interpreter's library decides by tables: lower case, white space, and what is said of an
  address. `Env` is the environment of the process.
* `admit_zabbix_api` maps a base URL and the answer of the name service to an admitted endpoint and its pin, or to the
  text of its refusal.

## What is proved

* `admit_ok`: what an admitted endpoint has passed, and what its pin is.
* `screen_ok_iff`, `check_host_ok_iff`: each check says what the policy says.

## Honest scope

Parts of a URL that no check reads are left out, as is the validation of a base URL by the provider's configuration,
which comes before.
-/

namespace JLMirror.Egress

open Foundations

/-! ### Addresses and the environment -/

/-- An address, with what module `ipaddress` says of it. -/
structure IpAddress where
  text : String
  /-- The address is one of version 6. -/
  v6 : Bool
  is_private : Bool
  is_loopback : Bool
  is_link_local : Bool
  is_multicast : Bool
  is_reserved : Bool
  is_unspecified : Bool
  deriving DecidableEq

/-- What the interpreter's library decides by tables. -/
structure Library where
  /-- `str.lower`. -/
  lower : String → String
  lower_empty : lower "" = ""
  /-- `str.upper`. -/
  upper : String → String
  /-- `str.isspace`. -/
  isspace : Char → Bool
  /-- `ipaddress.ip_address`, where the text is one of an address. -/
  ip_address : String → Option IpAddress

/-- The variables of the environment that the policy reads; empty where they are not set. -/
structure Env where
  EGRESS_ALLOW_HOSTS : String
  EGRESS_ALLOW_ALL_HOSTS : String
  EGRESS_ALLOW_PRIVATE_IPS : String

/-! ### Parts of a text -/

def beforeFirst (c : Char) (l : List Char) : List Char := l.takeWhile (· ≠ c)

def afterFirst (c : Char) (l : List Char) : List Char := (l.dropWhile (· ≠ c)).drop 1

def afterLast (c : Char) (l : List Char) : List Char := (l.reverse.takeWhile (· ≠ c)).reverse

/-- `rstrip`, of what satisfies `p`. -/
def rstrip (p : Char → Bool) (l : List Char) : List Char := (l.reverse.dropWhile p).reverse

section Policy

variable (lib : Library) (env : Env)

/-- `str.strip`. -/
def strip (s : String) : String := String.ofList (rstrip lib.isspace (s.toList.dropWhile lib.isspace))

/-- `_env_flag`, on the variable's value. -/
def env_flag (value : String) : Bool := lib.lower (strip lib value) ∈ ["1", "true", "yes"]

/-- `_env_hosts`. -/
def env_hosts : List String :=
  ((env.EGRESS_ALLOW_HOSTS.toList.splitOn ',').map fun h => lib.lower (strip lib (String.ofList h))).filter (· ≠ "")

/-- `EGRESS_ALLOW_ALL_HOSTS`. -/
def allow_all : Bool := env_flag lib env.EGRESS_ALLOW_ALL_HOSTS

/-- `EGRESS_ALLOW_PRIVATE_IPS`. -/
def private_mode : Bool := env_flag lib env.EGRESS_ALLOW_PRIVATE_IPS

/-- `_blocked_ip`. -/
def blocked_ip (ip : IpAddress) : Bool :=
  ip.is_private || ip.is_loopback || ip.is_link_local || ip.is_multicast || ip.is_reserved || ip.is_unspecified

/-! ### The parts of a URL -/

/-- A scheme, as `urlparse` accepts it. -/
def isScheme (head : List Char) : Bool :=
  head.head?.any Char.isAlpha && head.all fun c => c.isAlphanum || c ∈ ['+', '-', '.']

/-- The scheme of `urlparse`, and what is after it. -/
def urlparse_scheme (url : List Char) : List Char × List Char :=
  if (beforeFirst ':' url).length < url.length ∧ isScheme (beforeFirst ':' url) = true then
    ((beforeFirst ':' url).map Char.toLower, url.drop ((beforeFirst ':' url).length + 1))
  else ([], url)

/-- The authority of a URL without its scheme. -/
def netloc (rest : List Char) : List Char :=
  if ['/', '/'].isPrefixOf rest then (rest.drop 2).takeWhile fun c => c ∉ ['/', '?', '#'] else []

/-- The host in an authority, without its port and brackets. -/
def hostinfo (authority : List Char) : List Char :=
  let info := afterLast '@' authority
  if '[' ∈ info then beforeFirst ']' (afterFirst '[' info) else beforeFirst ':' info

/-- `hostname`. -/
def urlparse_hostname (url : List Char) : Option String :=
  let host := hostinfo (netloc (urlparse_scheme url).2)
  if host = [] then none
  else
    let zone := host.drop (beforeFirst '%' host).length
    some (lib.lower (String.ofList (beforeFirst '%' host)) ++ String.ofList zone)

/-! ### Admission -/

/-- The check of the host. -/
def check_host (host : String) : Except String Unit :=
  if allow_all lib env then .ok ()
  else if env_hosts lib env = [] then
    .error "EGRESS_ALLOW_HOSTS required (or explicit EGRESS_ALLOW_ALL_HOSTS for local dev)"
  else if host ∉ env_hosts lib env then .error s!"host {host} not in EGRESS_ALLOW_HOSTS"
  else .ok ()

/-- `_resolve`; `answer` is what `getaddrinfo` says, if it does not fail. -/
def resolve (host : String) (answer : Option (List IpAddress)) : Except String (List IpAddress) :=
  match lib.ip_address host with
  | some ip => .ok [ip]
  | none =>
    match answer with
    | none => .error s!"host {host} does not resolve"
    | some infos =>
      if infos = [] then .error s!"host {host} has no addresses"
      else .ok infos.eraseDups

/-- `_screen_ips`. -/
def screen_ips (host : String) (ips : List IpAddress) : Except String Unit :=
  let blocked := ips.filter blocked_ip
  if blocked ≠ [] then
    .error (s!"host {host} resolves to non-public address(es): " ++
      ", ".intercalate ((blocked.map IpAddress.text).eraseDups.mergeSort))
  else .ok ()

/-- A pin: the host and the address, and the addresses that it was chosen from, which the code does not keep. -/
structure Pin where
  host : String
  ip : IpAddress
  resolved : List IpAddress
  deriving DecidableEq

/-- The checks of `admit_zabbix_api` on the base URL, which come to its host. -/
def admit_host (base : List Char) : Except String String :=
  if (urlparse_scheme base).1 ≠ "https".toList then .error "provider base_url must use https"
  else if lib.lower ((urlparse_hostname lib base).getD "") = "" then .error "provider base_url requires a host"
  else
    match check_host lib env (lib.lower ((urlparse_hostname lib base).getD "")) with
    | .error e => .error e
    | .ok () => .ok (lib.lower ((urlparse_hostname lib base).getD ""))

/-- Its checks on the addresses, which come to a pin. -/
def admit_addresses (host : String) (answer : Option (List IpAddress)) : Except String (Option Pin) :=
  match resolve lib host answer with
  | .error e =>
    -- an intranet's host is admitted without a pin
    if private_mode lib env then .ok none else .error e
  | .ok ips =>
    match if private_mode lib env then .ok () else screen_ips host ips with
    | .error e => .error e
    | .ok () => .ok (ips.head?.map fun ip => ⟨host, ip, ips⟩)

/-- `admit_zabbix_api`: the URL of the API, and what is pinned to it. -/
def admit_zabbix_api (base_url : String) (answer : Option (List IpAddress)) : Except String (String × Option Pin) := do
  let base := rstrip (· = '/') base_url.toList
  let host ← admit_host lib env base
  let pin ← admit_addresses lib env host answer
  return (String.ofList base ++ "/api_jsonrpc.php", pin)

/-! ### What an admission has checked -/

/-- The policy allows the host. -/
def HostAllowed (host : String) : Prop := allow_all lib env = true ∨ host ∈ env_hosts lib env

/-- The policy allows the addresses. -/
def Public (ips : List IpAddress) : Prop := private_mode lib env = true ∨ ∀ ip ∈ ips, blocked_ip ip = false

instance {host : String} : Decidable (HostAllowed lib env host) := inferInstanceAs (Decidable (_ ∨ _))

instance {ips : List IpAddress} : Decidable (Public lib env ips) := inferInstanceAs (Decidable (_ ∨ _))

variable {lib env}

variable {host : String}

theorem check_host_ok_iff : check_host lib env host = .ok () ↔ HostAllowed lib env host := by
  unfold check_host HostAllowed
  split_ifs with hall hempty hmem
  · simp [hall]
  · simp [hall, hempty]
  · simp [hall, hmem]
  · simp [hall, hmem]

variable {ips : List IpAddress}

theorem screen_ok_iff : screen_ips host ips = .ok () ↔ ∀ ip ∈ ips, blocked_ip ip = false := by
  simp [screen_ips]

theorem eraseDups_ne_nil (h : ips ≠ []) : ips.eraseDups ≠ [] := by
  obtain ⟨ip, rest, rfl⟩ := List.exists_cons_of_ne_nil h
  rw [List.eraseDups_cons]
  exact List.cons_ne_nil _ _

variable {answer : Option (List IpAddress)}

theorem resolve_ne_nil (h : resolve lib host answer = .ok ips) : ips ≠ [] := by
  unfold resolve at h
  split at h
  · cases h
    simp
  · split at h
    · cases h
    · split_ifs at h with hempty
      cases h
      exact eraseDups_ne_nil hempty

/-- What an admitted endpoint has passed. -/
structure AdmitOk (lib : Library) (env : Env) (api_url : String) (pin : Option Pin) : Prop where
  /-- Its host is allowed. -/
  endpoint : ∃ host, urlparse_hostname lib api_url.toList = some host ∧ HostAllowed lib env (lib.lower host)
  /-- Only an intranet's host goes without a pin. -/
  unpinned : pin = none → private_mode lib env = true
  /-- The pin is of the host, and one of the addresses that were screened. -/
  pinned : ∀ p, pin = some p → HostAllowed lib env p.host ∧ Public lib env p.resolved ∧ p.ip ∈ p.resolved

/-- What stands after an authority does not change it. -/
theorem netloc_append {rest : List Char} (tail : List Char) (h : netloc rest ≠ []) :
    netloc (rest ++ '/' :: tail) = netloc rest := by
  unfold netloc at h ⊢
  by_cases hslash : ['/', '/'].isPrefixOf rest = true
  · obtain ⟨after, rfl⟩ := List.isPrefixOf_iff_prefix.1 hslash
    rw [if_pos hslash, if_pos (by simp), List.append_assoc]
    simp only [List.cons_append, List.nil_append, List.drop_succ_cons, List.drop_zero]
    rw [List.takeWhile_append]
    split_ifs with hall
    · -- the whole rest was the authority, and the slash ends it
      have hsame := (List.takeWhile_prefix fun c => decide (c ∉ ['/', '?', '#'])).eq_of_length hall
      rw [hsame]
      simp
    · rfl
  · rw [if_neg hslash] at h
    exact absurd rfl h

/-- The path of the API leaves the scheme and the authority of the base URL. -/
theorem urlparse_scheme_append {base : List Char} (tail : List Char) (h : (urlparse_scheme base).1 ≠ []) :
    urlparse_scheme (base ++ tail) = ((urlparse_scheme base).1, (urlparse_scheme base).2 ++ tail) := by
  unfold urlparse_scheme at h ⊢
  split_ifs at h with hbase
  · have hhead : beforeFirst ':' (base ++ tail) = beforeFirst ':' base := by
      unfold beforeFirst at hbase ⊢
      rw [List.takeWhile_append, if_neg (Nat.ne_of_lt hbase.1)]
    have hlen : (beforeFirst ':' base).length < (base ++ tail).length :=
      Nat.lt_of_lt_of_le hbase.1 (by rw [List.length_append]; omega)
    rw [hhead, if_pos ⟨hlen, hbase.2⟩, if_pos hbase, List.drop_append_of_le_length hbase.1]
  · exact absurd rfl h

theorem urlparse_hostname_append {base : List Char} (tail : List Char) (hscheme : (urlparse_scheme base).1 ≠ [])
    (h : urlparse_hostname lib base = some host) : urlparse_hostname lib (base ++ '/' :: tail) = some host := by
  have hnetloc : netloc (urlparse_scheme base).2 ≠ [] := by
    intro hnil
    simp only [urlparse_hostname, hnil] at h
    exact absurd h (by simp [hostinfo, afterLast, beforeFirst])
  rw [urlparse_hostname, urlparse_scheme_append _ hscheme, netloc_append tail hnetloc]
  exact h

theorem admit_host_ok {base : List Char} (h : admit_host lib env base = .ok host) :
    HostAllowed lib env host ∧
      ∃ name, urlparse_hostname lib (base ++ "/api_jsonrpc.php".toList) = some name ∧ lib.lower name = host := by
  unfold admit_host at h
  split_ifs at h with hscheme hempty
  cases hname : urlparse_hostname lib base with
  | none => simp [hname, lib.lower_empty] at hempty
  | some name =>
    rw [hname, Option.getD_some] at h
    cases hcheck : check_host lib env (lib.lower name) with
    | error e =>
      rw [hcheck] at h
      cases h
    | ok u =>
      rw [hcheck] at h
      cases h
      have hhttps : (urlparse_scheme base).1 ≠ [] := by
        rw [Decidable.not_not.1 hscheme]
        decide
      exact ⟨check_host_ok_iff.1 hcheck, name, urlparse_hostname_append _ hhttps hname, rfl⟩

theorem admit_addresses_ok {pin : Option Pin} (h : admit_addresses lib env host answer = .ok pin) :
    (pin = none → private_mode lib env = true) ∧
      ∀ p, pin = some p → p.host = host ∧ Public lib env p.resolved ∧ p.ip ∈ p.resolved := by
  unfold admit_addresses at h
  cases hips : resolve lib host answer with
  | error e =>
    rw [hips] at h
    simp only at h
    split_ifs at h with hprivate
    cases h
    exact ⟨fun _ => hprivate, fun p hp => (nomatch hp)⟩
  | ok ips =>
    rw [hips] at h
    obtain ⟨ip, rest, rfl⟩ := List.exists_cons_of_ne_nil (resolve_ne_nil hips)
    simp only [List.head?_cons, Option.map_some] at h
    by_cases hprivate : private_mode lib env = true
    · rw [if_pos hprivate] at h
      cases h
      exact ⟨fun _ => hprivate, fun p hp => by cases hp; exact ⟨rfl, Or.inl hprivate, by simp⟩⟩
    · rw [if_neg hprivate] at h
      cases hscreen : screen_ips host (ip :: rest) with
      | error e =>
        rw [hscreen] at h
        cases h
      | ok u =>
        rw [hscreen] at h
        cases h
        exact ⟨fun hnone => (nomatch hnone),
          fun p hp => by cases hp; exact ⟨rfl, Or.inr (screen_ok_iff.1 hscreen), by simp⟩⟩

theorem admit_ok {base_url api_url : String} {pin : Option Pin}
    (h : admit_zabbix_api lib env base_url answer = .ok (api_url, pin)) : AdmitOk lib env api_url pin := by
  obtain ⟨host, hhost, h⟩ := bind_ok_iff.1 h
  obtain ⟨pin', hpin, h⟩ := bind_ok_iff.1 h
  obtain ⟨rfl, rfl⟩ := Prod.mk.inj (Except.ok.inj h)
  obtain ⟨hallowed, name, hname, rfl⟩ := admit_host_ok hhost
  obtain ⟨hnone, hsome⟩ := admit_addresses_ok hpin
  refine ⟨⟨name, ?_, hallowed⟩, hnone, fun p hp => ?_⟩
  · rw [String.toList_append, String.toList_ofList]
    exact hname
  · obtain ⟨hhost', hpublic, hmem⟩ := hsome p hp
    exact ⟨hhost' ▸ hallowed, hpublic, hmem⟩

end Policy

end JLMirror.Egress
