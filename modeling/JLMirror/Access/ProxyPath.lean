import JLMirror.Access.TenantBinding
import JLMirror.Foundations.Url

/-!
# The path of a proxied request

The shell takes the decoded path of a request, pastes what is after `/api/v1/` into the URL of the API, and asks a
client for that URL (`bff/main.py`, `proxy_to_api`). The client parses the URL again. `/metrics` and the sink of the
development outbox are for the internal network, and the shell is the public boundary.

## The model

* `Incoming` is a request with the path as the server of the shell hands it on: decoded, and not normalized.
* `forwarded_request` is the request that the API receives, with the path as its own server decodes it.
* Whether the client parses a URL at all is a parameter, as is the origin of the API.

## What is proved

* **Key result** (`proxy_confined_iff`): the API receives the method and the path that the shell received if and only
  if the path is plain and does not end in a line feed, and the branch that forwards it sends the method that it has.

## Honest scope

The body, the query and the headers are left out. Requests that the recheck of a source takes before the proxy are not
singled out: what is said of the proxy holds of them too.
-/

namespace JLMirror.Access

open Foundations
open Foundations.Url (Origin decodedPath Plain)

namespace ProxyPath

/-! ### The shell's route -/

/-- A request as it comes to the shell. -/
structure Incoming where
  method : String
  /-- The whole path, decoded. -/
  path : List Char
  accept : Option String
  session_cookie : Option String
  csrf_header : Option String
  csrf_cookie : Option String

/-- The methods of the proxy's route. -/
def PROXIED_METHODS : List String := ["GET", "POST", "PUT", "DELETE", "PATCH"]

/-- The start of the proxy's route. -/
def API_V1 : List Char := "/api/v1/".toList

/-- A text without a line feed at its end. -/
def beforeLineFeed (l : List Char) : List Char := if l.getLast? = some '\n' then l.dropLast else l

/-- What `/api/v1/{path:path}` matches. The pattern `.*` stops at a line feed, and a pattern may end before a final
one. -/
def captured (path : List Char) : Option (List Char) :=
  if API_V1.isPrefixOf path then (some (beforeLineFeed (path.drop API_V1.length))).filter fun rest => '\n' ∉ rest
  else none

/-- The request as the proxy sees it. -/
def Incoming.routed (incoming : Incoming) : Option BffRequest :=
  if incoming.method ∈ PROXIED_METHODS then
    (captured incoming.path).map fun path =>
      ⟨incoming.method, String.ofList path, incoming.session_cookie, incoming.csrf_header, incoming.csrf_cookie⟩
  else none

/-! ### What the API receives -/

/-- A request as the API's server knows it. -/
structure Received where
  method : String
  path : List Char
  deriving DecidableEq

section Proxy

variable (digest : String → String) (parses : List Char → Bool) (origin : Origin)

/-- A request of the client for a path of the API. -/
def client_request (method path : String) : Option Received :=
  let url := origin.url (API_V1 ++ path.toList)
  if parses url then some ⟨method, decodedPath url⟩ else none

/-- What `proxy_to_api` sends on. -/
def forwarded_request (incoming : Incoming) (s : Bff) : Option Received :=
  incoming.routed.bind fun request =>
    match (proxy_to_api digest request s).1 with
    | .forwarded_raw => client_request parses origin "POST" request.path
    | .forwarded .. =>
      if incoming.accept = some "text/event-stream" ∨ request.path = "noc/stream" then
        client_request parses origin "GET" request.path
      else client_request parses origin request.method request.path
    | _ => none

/-! ### Confinement -/

/-- The API receives the method and the path that the shell received, and the path is one of its public ones. -/
structure Confined (incoming : Incoming) (r : Received) : Prop where
  method : r.method = incoming.method
  path : r.path = incoming.path
  public_path : API_V1 <+: r.path

/-- The branch that forwards the request sends the method that it has. -/
def MethodKept (incoming : Incoming) : Prop :=
  if incoming.path = "/api/v1/alerting/notifications/callback".toList then incoming.method = "POST"
  else incoming.accept = some "text/event-stream" ∨ incoming.path = "/api/v1/noc/stream".toList →
    incoming.method = "GET"

instance {incoming : Incoming} : Decidable (MethodKept incoming) := by
  unfold MethodKept
  infer_instance

/-- Nothing of the request is for a later parser to act on. -/
structure Straight (incoming : Incoming) : Prop where
  plain : Plain incoming.path
  noFinalLineFeed : incoming.path.getLast? ≠ some '\n'
  method : MethodKept incoming

/-- The method that is sent for a path. -/
def sentMethod (incoming : Incoming) (path : List Char) : String :=
  if path = "alerting/notifications/callback".toList then "POST"
  else if incoming.accept = some "text/event-stream" ∨ path = "noc/stream".toList then "GET"
  else incoming.method

theorem beforeLineFeed_or (l : List Char) : l = beforeLineFeed l ∨ l = beforeLineFeed l ++ ['\n'] := by
  unfold beforeLineFeed
  split_ifs with h
  · obtain ⟨before, rfl⟩ := List.getLast?_eq_some_iff.1 h
    exact Or.inr (by rw [List.dropLast_concat])
  · exact Or.inl rfl

/-- The route's parameter is the path after the start of the route, but for a line feed at its end. -/
theorem captured_some {path rest : List Char} (h : captured path = some rest) :
    '\n' ∉ rest ∧ (path = API_V1 ++ rest ∨ path = API_V1 ++ rest ++ ['\n']) := by
  simp only [captured, Option.ite_none_right_eq_some, Option.filter_eq_some_iff, Option.some.injEq,
    decide_eq_true_eq] at h
  obtain ⟨hscheme, rfl, hfeed⟩ := h
  obtain ⟨after, rfl⟩ := List.isPrefixOf_iff_prefix.1 hscheme
  rw [List.drop_left] at hfeed ⊢
  refine ⟨hfeed, ?_⟩
  rw [List.append_assoc, List.append_right_inj, List.append_right_inj]
  exact beforeLineFeed_or after

variable {digest parses origin}

variable {request : BffRequest}

/-- Only a callback goes on as it is. -/
theorem proxy_raw {s : Bff} (h : (proxy_to_api digest request s).1 = .forwarded_raw) :
    request.path = "alerting/notifications/callback" := by
  by_contra hpath
  rw [proxy_to_api, if_neg hpath] at h
  cases hr : resolve_session digest request s with
  | none => simp [hr] at h
  | some session =>
    simp only [hr] at h
    by_cases hcsrf : request.method ≠ "GET" ∧ csrf_ok digest request session = false
    · rw [if_pos hcsrf] at h
      cases h
    · rw [if_neg hcsrf] at h
      cases hb : session.bound_tenant_id.filter (· ≠ "") with
      | none =>
        rw [hb] at h
        cases h
      | some tenant =>
        simp only [hb] at h
        rcases hc : check_membership_cached session.principal_id tenant s with ⟨_ | role, s'⟩ <;> simp [hc] at h

theorem proxy_callback {s : Bff} (h : request.path = "alerting/notifications/callback") :
    (proxy_to_api digest request s).1 = .forwarded_raw := by
  rw [proxy_to_api, if_pos h]

theorem client_request_some {method path : String} {r : Received}
    (h : client_request parses origin method path = some r) :
    r = ⟨method, decodedPath (origin.url (API_V1 ++ path.toList))⟩ := by
  simp only [client_request, Option.ite_none_right_eq_some, Option.some.injEq] at h
  exact h.2.symm

variable {incoming : Incoming}

theorem routed_some (h : incoming.routed = some request) :
    captured incoming.path = some request.path.toList ∧ request.method = incoming.method := by
  simp only [Incoming.routed, Option.ite_none_right_eq_some, Option.map_eq_some_iff] at h
  obtain ⟨-, rest, hcaptured, rfl⟩ := h
  exact ⟨by rw [hcaptured, String.toList_ofList], rfl⟩

/-- What is forwarded: the captured path, through the client's parser. -/
theorem forwarded_request_some {s : Bff} {r : Received}
    (h : forwarded_request digest parses origin incoming s = some r) :
    ∃ rest, captured incoming.path = some rest ∧ r.path = decodedPath (origin.url (API_V1 ++ rest)) ∧
      r.method = sentMethod incoming rest := by
  obtain ⟨request, hrouted, hsent⟩ := Option.bind_eq_some_iff.1 h
  obtain ⟨hcaptured, hmethod⟩ := routed_some hrouted
  refine ⟨request.path.toList, hcaptured, ?_⟩
  simp only [sentMethod, String.toList_inj]
  cases hanswer : (proxy_to_api digest request s).1 with
  | forwarded_raw =>
    rw [hanswer] at hsent
    rw [client_request_some hsent, if_pos (proxy_raw hanswer)]
    exact ⟨rfl, rfl⟩
  | forwarded principal_id tenant_id session_digest session_generation =>
    rw [hanswer] at hsent
    have hpath : request.path ≠ "alerting/notifications/callback" := by
      intro h
      rw [proxy_callback h] at hanswer
      cases hanswer
    simp only at hsent
    rw [if_neg hpath]
    split_ifs at hsent ⊢
    · rw [client_request_some hsent]
      exact ⟨rfl, rfl⟩
    · rw [client_request_some hsent]
      exact ⟨rfl, hmethod⟩
  | unauthenticated | forbidden | membership_revoked | unavailable | raised | ready =>
    rw [hanswer] at hsent
    cases hsent

theorem API_V1_append (rest : List Char) : API_V1 ++ rest = '/' :: ("api/v1/".toList ++ rest) := rfl

/-- The method is the one that came in if and only if the branch keeps it. -/
theorem sentMethod_eq_iff {rest : List Char} (h : incoming.path = API_V1 ++ rest) :
    sentMethod incoming rest = incoming.method ↔ MethodKept incoming := by
  have hpath : ∀ text : List Char, incoming.path = API_V1 ++ text ↔ rest = text := by
    intro text
    rw [h, List.append_right_inj]
  have hcallback : incoming.path = "/api/v1/alerting/notifications/callback".toList ↔
      rest = "alerting/notifications/callback".toList := hpath _
  have hstream : incoming.path = "/api/v1/noc/stream".toList ↔ rest = "noc/stream".toList := hpath _
  simp only [sentMethod, MethodKept, hcallback, hstream]
  split_ifs with h₁ h₂
  · exact eq_comm
  · exact ⟨fun heq _ => heq.symm, fun hkept => (hkept h₂).symm⟩
  · exact ⟨fun _ hstream => absurd hstream h₂, fun _ => rfl⟩

/-- **Key result.** A request that is forwarded is the one that came in if and only if it is straight. -/
theorem proxy_confined_iff {incoming : Incoming} {s : Bff} {r : Received}
    (h : forwarded_request digest parses origin incoming s = some r) : Confined incoming r ↔ Straight incoming := by
  obtain ⟨rest, hcaptured, hpath, hmethod⟩ := forwarded_request_some h
  obtain ⟨hfeed, heq | heq⟩ := captured_some hcaptured
  · -- the route's parameter is the whole rest of the path
    have hsent := sentMethod_eq_iff heq
    have hplain : r.path = incoming.path ↔ Plain incoming.path := by
      rw [hpath, heq, API_V1_append]
      exact Url.decoded_iff_plain origin _
    have hlast : incoming.path.getLast? ≠ some '\n' := by
      intro hlast
      have hmem := List.mem_of_getLast? hlast
      rw [heq, List.mem_append] at hmem
      exact hmem.elim (by decide) hfeed
    constructor
    · intro hconfined
      exact ⟨hplain.1 hconfined.path, hlast, hsent.1 (hmethod ▸ hconfined.method)⟩
    · intro hstraight
      have hsame := hplain.2 hstraight.plain
      exact ⟨hmethod.trans (hsent.2 hstraight.method), hsame, by rw [hsame, heq]; exact List.prefix_append _ _⟩
  · -- a line feed at the end is lost, and no parser puts one there
    constructor
    · intro hconfined
      have hlen := Url.length_decodedPath origin ("api/v1/".toList ++ rest)
      have hsame := congrArg List.length (hpath.symm.trans hconfined.path)
      have hone : (API_V1 ++ rest ++ ['\n']).length = ("api/v1/".toList ++ rest).length + 2 := by
        rw [API_V1_append, List.length_append, List.length_cons, List.length_singleton]
      rw [heq, hone] at hsame
      rw [← API_V1_append] at hlen
      omega
    · intro hstraight
      exact absurd (by rw [heq, List.getLast?_concat]) hstraight.noFinalLineFeed

end Proxy

/-- The development origin of the API. -/
def devOrigin : Origin := ⟨"http".toList, "localhost:8000".toList, by simp, by simp [Url.endsPath]⟩

/-- A request of the session in the shell's table. -/
def asked (method path : String) : Incoming := ⟨method, path.toList, none, some "h", some "c", some "c"⟩

/-- A list of sources is asked for, and is what the API is asked for. -/
theorem proxy_confined_iff_sources :
    Confined (asked "GET" "/api/v1/monitoring/sources") ⟨"GET", "/api/v1/monitoring/sources".toList⟩ ↔
      Straight (asked "GET" "/api/v1/monitoring/sources") := by
  have hsent : forwarded_request id (fun _ => true) devOrigin (asked "GET" "/api/v1/monitoring/sources")
      (shellOf "p") = some ⟨"GET", "/api/v1/monitoring/sources".toList⟩ := by decide
  exact proxy_confined_iff hsent

/-- Any session reads the metrics. -/
theorem metrics_reached : ¬∀ (digest : String → String) (parses : List Char → Bool) (origin : Origin)
    (incoming : Incoming) (s : Bff) (r : Received),
      forwarded_request digest parses origin incoming s = some r → Confined incoming r := by
  intro h
  have hsent : forwarded_request id (fun _ => true) devOrigin (asked "GET" "/api/v1/../../metrics") (shellOf "p") =
      some ⟨"GET", "/metrics".toList⟩ := by decide
  exact absurd (h _ _ _ _ _ _ hsent).path (by decide)

end ProxyPath

end JLMirror.Access
