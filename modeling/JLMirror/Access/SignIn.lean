import JLMirror.Access.Provisioning
import JLMirror.Access.TenantBinding

/-!
# Signing in

`auth_login`, `auth_callback` and `auth_logout` of `bff/main.py`: a login stores a pending state, the provider sends the
browser back with it, the callback consumes it one-shot, validates the ID token against its nonce and establishes a
session for the principal of the token's subject; a logout retires the session.

## The model

Any number of requests are under way, and each of their transactions is a step. A request may stop between two of them,
and the clock goes on, sessions are bound and the tables change. `logins` and `established` are histories.

## What is proved

* **Key result** (`sign_in_law`): a stored login establishes one session at most, and there are no others; each is one of
  an active principal, with the subject of a token of the issuer that has the login's nonce.
* **Key result** (`ended_stays_ended`): a session that no longer resolves never does again.

## Honest scope

Production: the login of development and its provisioning are left out, as are the verifier of the code, the redirects and
the columns that only they read. There is one clock, which does not go back.
-/

namespace JLMirror.Access

open Foundations Members

/-- `g1.oidc_pending_states`. -/
structure PendingState where
  state_digest : String
  nonce : String
  expires_at : ℕ
  deriving DecidableEq

/-- The claims of an ID token that a login reads. -/
structure IdTokenClaims where
  iss : String
  sub : String
  nonce : String
  deriving DecidableEq

/-- Ten minutes. -/
def PENDING_LIFETIME : ℕ := 600

/-- What the shell knows from its settings, and the digest of handles and tokens. -/
structure SignInSettings where
  digest : String → String
  expected_issuer : String
  session_lifetime : ℕ
  login : LoginSettings
  production : login.is_development = false

/-- A callback that has consumed its login, and the claims of its token once they are validated. -/
structure Callback where
  login : PendingState
  claims : Option IdTokenClaims
  deriving DecidableEq

/-- A session as it was inserted, with what it was established from. -/
structure Established where
  login : PendingState
  claims : IdTokenClaims
  principal : PrincipalRow
  session : BrowserSession

/-- The tables and the requests under way. -/
structure SignIn where
  db : MemberDb
  sessions : List BrowserSession
  pending : List PendingState
  now : ℕ
  callbacks : List Callback
  logouts : List BrowserSession
  logins : List PendingState
  established : List Established

def SignIn.init (db : MemberDb) (now : ℕ) : SignIn := ⟨db, [], [], now, [], [], [], []⟩

/-- The shell, as its other handlers see it. -/
def SignIn.bff (s : SignIn) : Bff := ⟨s.db.access, s.sessions, ∅, s.now, 0⟩

/-! ### The requests -/

/-- The row that a callback deletes. -/
def PendingState.consumable (digest : String) (now : ℕ) (row : PendingState) : Bool :=
  row.state_digest = digest ∧ now < row.expires_at

/-- `validate_id_token`; the signature, the audience and the expiry of a token that is `decoded` are right. -/
def validate_id_token (expected_nonce expected_issuer : String) (decoded : Option IdTokenClaims) : Option IdTokenClaims :=
  decoded.filter fun claims => claims.iss = expected_issuer ∧ claims.nonce = expected_nonce

/-- The callback goes on as `next`, or ends. -/
def SignIn.proceed (callback : Callback) (next : Option Callback) (s : SignIn) : SignIn :=
  { s with callbacks := s.callbacks.erase callback ++ next.toList }

/-- The `INSERT` of a session. -/
def SignIn.insert (e : Established) (s : SignIn) : SignIn :=
  { s with sessions := s.sessions ++ [e.session], established := s.established ++ [e] }

/-- `_establish_session`. -/
def SignIn.establish_session (settings : SignInSettings) (login : PendingState) (claims : IdTokenClaims)
    (handle csrf session_generation : String) (s : SignIn) : SignIn :=
  match resolve_or_provision_principal settings.login claims.sub claims.iss s.db with
  | .ok (some principal, _) =>
    let row : BrowserSession := ⟨settings.digest handle, principal.principal_id, session_generation, settings.digest csrf,
      none, s.now + settings.session_lifetime, false⟩
    if principal.active = false ∨ ∃ r ∈ s.sessions, r.handle_digest = row.handle_digest then s
    else s.insert ⟨login, claims, principal, row⟩
  | _ => s

/-- `retire`. -/
def SignIn.retire (session : BrowserSession) (s : SignIn) : SignIn :=
  { s with sessions := updateWhere session.binds (fun row => { row with retired := true }) s.sessions }

/-- What happens. -/
inductive SignInAct where
  | auth_login (state nonce : String)
  | auth_callback (state : String)
  /-- The provider has answered a callback: `none` if the exchange fails. -/
  | exchanged (login : PendingState) (decoded : Option IdTokenClaims)
  | establish_session (login : PendingState) (claims : IdTokenClaims) (handle csrf session_generation : String)
  | auth_logout (request : BffRequest)
  | retire (session : BrowserSession)
  | bind_tenant (session : BrowserSession) (tenant_id : String)
  | change (db : MemberDb)
  | advance (seconds : ℕ)

/-- What a step does. -/
def SignIn.step (settings : SignInSettings) (s : SignIn) : SignInAct → SignIn
  | .auth_login state nonce =>
    let row : PendingState := ⟨settings.digest state, nonce, s.now + PENDING_LIFETIME⟩
    if ∃ r ∈ s.pending, r.state_digest = row.state_digest then s
    else { s with pending := s.pending ++ [row], logins := s.logins ++ [row] }
  | .auth_callback state =>
    match s.pending.find? (PendingState.consumable (settings.digest state) s.now) with
    | some row =>
      { s with
        pending := s.pending.filter fun r => !r.consumable (settings.digest state) s.now
        callbacks := s.callbacks ++ [⟨row, none⟩] }
    | none => s
  | .exchanged login decoded =>
    if ⟨login, none⟩ ∈ s.callbacks then
      s.proceed ⟨login, none⟩ ((validate_id_token login.nonce settings.expected_issuer decoded).map (⟨login, some ·⟩))
    else s
  | .establish_session login claims handle csrf session_generation =>
    if ⟨login, some claims⟩ ∈ s.callbacks then
      (s.proceed ⟨login, some claims⟩ none).establish_session settings login claims handle csrf session_generation
    else s
  | .auth_logout request =>
    match resolve_session settings.digest request s.bff with
    | some session => if csrf_ok settings.digest request session then { s with logouts := session :: s.logouts } else s
    | none => s
  | .retire session => if session ∈ s.logouts then s.retire session else s
  | .bind_tenant session tenant_id => { s with sessions := (session.bindTo tenant_id s.bff).sessions }
  | .change db => { s with db }
  | .advance seconds => { s with now := s.now + seconds }

/-- The state after a run. -/
def SignIn.exec (settings : SignInSettings) (s : SignIn) (run : List SignInAct) : SignIn := run.foldl (step settings) s

/-! ### Logins -/

/-- The token is one of the issuer, for the login. -/
def IdTokenClaims.Answers (expected_issuer : String) (login : PendingState) (claims : IdTokenClaims) : Prop :=
  claims.iss = expected_issuer ∧ claims.nonce = login.nonce

/-- The session was established for the principal of the token, one that `seen` knows. -/
def Established.Sound (expected_issuer : String) (seen : PrincipalRow → Prop) (e : Established) : Prop :=
  e.claims.Answers expected_issuer e.login ∧ seen e.principal ∧ e.principal.active = true ∧
    e.principal.idp_subject_ref = some e.claims.sub ∧ e.principal.idp_issuer = some e.claims.iss ∧
    e.session.principal_id = e.principal.principal_id

/-- The session as it was inserted. -/
def BrowserSession.inserted (row : BrowserSession) : BrowserSession := { row with bound_tenant_id := none, retired := false }

/-- Each login establishes one session at most, of the principal of its token; there are no other sessions. -/
structure SignIn.Lawful (expected_issuer : String) (seen : PrincipalRow → Prop) (s : SignIn) : Prop where
  once : ∀ login, s.established.countP (fun e => e.login = login) ≤ s.logins.count login
  sound : ∀ e ∈ s.established, e.Sound expected_issuer seen
  inserted : s.sessions.map BrowserSession.inserted = s.established.map Established.session

/-- The callbacks that have the login in their hands. -/
def SignIn.holders (login : PendingState) (s : SignIn) : ℕ := s.callbacks.countP fun c => c.login = login

/-- A login is pending, in the hands of a callback, or established. -/
structure SignIn.Inv (expected_issuer : String) (seen : PrincipalRow → Prop) (s : SignIn) : Prop
    extends s.Lawful expected_issuer seen where
  once login := le_trans (by omega) (consumed login)
  consumed : ∀ login, s.established.countP (fun e => e.login = login) + (s.holders login + s.pending.count login) ≤
    s.logins.count login
  answered : ∀ c ∈ s.callbacks, ∀ claims ∈ c.claims, claims.Answers expected_issuer c.login

section Logins

variable {settings : SignInSettings} {seen : PrincipalRow → Prop} {i : String} {s : SignIn} {callback : Callback}

theorem SignIn.holders_eq (h : callback ∈ s.callbacks) (login : PendingState) :
    s.holders login = (s.proceed callback none).holders login + if callback.login = login then 1 else 0 := by
  rw [holders, (List.perm_cons_erase h).countP_eq, List.countP_cons, holders, proceed]
  simp only [Option.toList_none, List.append_nil, decide_eq_true_eq]

theorem SignIn.Inv.proceed (h : s.Inv i seen) (hmem : callback ∈ s.callbacks) (next : Option Callback)
    (hnext : ∀ c ∈ next, c.login = callback.login ∧ ∀ claims ∈ c.claims, claims.Answers i c.login) :
    (s.proceed callback next).Inv i seen where
  sound := h.sound
  inserted := h.inserted
  consumed login := by
    refine le_trans (Nat.add_le_add_left (Nat.add_le_add_right ?_ _) _) (h.consumed login)
    rw [holders_eq hmem]
    cases next with
    | none => exact Nat.le_add_right _ _
    | some c => simp [holders, SignIn.proceed, hnext]
  answered c hc := by
    rcases List.mem_append.1 hc with hc | hc
    · exact h.answered c (List.mem_of_mem_erase hc)
    · exact (hnext c (Option.mem_toList.1 hc)).2

theorem SignIn.Inv.insert {e : Established} (h : s.Inv i seen) (hmem : ⟨e.login, some e.claims⟩ ∈ s.callbacks)
    (he : e.Sound i seen) (hnew : e.session.inserted = e.session) :
    ((s.proceed ⟨e.login, some e.claims⟩ none).insert e).Inv i seen where
  sound := List.forall_mem_append.2 ⟨h.sound, List.forall_mem_singleton.2 he⟩
  inserted := by
    rw [SignIn.insert, List.map_append, List.map_append]
    exact congrArg₂ _ h.inserted (congrArg (fun row => [row]) hnew)
  consumed login := by
    have hold := h.consumed login
    rw [holders_eq hmem] at hold
    rw [SignIn.insert, List.countP_append, List.countP_singleton]
    simp only [decide_eq_true_eq]
    refine le_trans (le_of_eq ?_) hold
    rw [Nat.add_assoc, Nat.add_right_comm _ (ite _ _ _), Nat.add_comm (ite _ _ _)]
    rfl
  answered := (h.proceed hmem none nofun).answered

theorem SignIn.Inv.establish_session {login : PendingState} {claims : IdTokenClaims} (h : s.Inv settings.expected_issuer seen)
    (hseen : ∀ p ∈ s.db.principals, seen p) (hmem : ⟨login, some claims⟩ ∈ s.callbacks)
    (handle csrf session_generation : String) :
    ((s.proceed ⟨login, some claims⟩ none).establish_session settings login claims handle csrf session_generation).Inv
      settings.expected_issuer seen := by
  have hended := h.proceed hmem none nofun
  rw [SignIn.establish_session, resolve_or_provision_principal, settings.production]
  cases hp : (s.proceed ⟨login, some claims⟩ none).db.principals.find? fun p =>
      p.idp_subject_ref = some claims.sub ∧ p.idp_issuer = some claims.iss with
  | none => exact hended
  | some principal =>
    have hsubject := of_decide_eq_true (List.find?_some (p := fun _ => decide _) hp)
    dsimp only
    split
    · exact hended
    · next hok =>
      have hactive : principal.active = true := by simpa using (not_or.1 hok).1
      refine h.insert hmem ⟨h.answered _ hmem claims rfl, ?_, hactive, hsubject.1, hsubject.2, rfl⟩ rfl
      exact hseen principal (List.mem_of_find?_eq_some hp)

theorem SignIn.Inv.auth_callback (h : s.Inv i seen) (state : String) : (s.step settings (.auth_callback state)).Inv i seen := by
  rw [step]
  split
  · next row hrow =>
    refine { sound := h.sound, inserted := h.inserted, consumed := fun login => ?_, answered := ?_ }
    · refine le_trans (Nat.add_le_add_left ?_ _) (h.consumed login)
      have hsub := List.filter_sublist (p := fun r => !r.consumable (settings.digest state) s.now) (l := s.pending)
      rw [holders, List.countP_append, List.countP_singleton, Nat.add_assoc]
      refine Nat.add_le_add_left ?_ _
      by_cases heq : row = login
      · subst heq
        rw [List.count_eq_zero.2 (by simp [List.find?_some hrow])]
        simpa [List.count_pos_iff] using List.mem_of_find?_eq_some hrow
      · simpa [heq] using hsub.count_le login
    · exact List.forall_mem_append.2 ⟨h.answered, List.forall_mem_singleton.2 fun _ hc => absurd hc (Option.not_mem_none _)⟩
  · exact h

theorem SignIn.Inv.of_kept (h : s.Inv i seen) {sessions logouts : List BrowserSession} {db : MemberDb} {now : ℕ}
    (hkept : sessions.map BrowserSession.inserted = s.sessions.map BrowserSession.inserted) :
    SignIn.Inv i seen { s with sessions, logouts, db, now } :=
  ⟨⟨h.once, h.sound, hkept.trans h.inserted⟩, h.consumed, h.answered⟩

theorem SignIn.Inv.step (h : s.Inv settings.expected_issuer seen) (hseen : ∀ p ∈ s.db.principals, seen p) (a : SignInAct) :
    (s.step settings a).Inv settings.expected_issuer seen := by
  cases a with
  | auth_login state nonce =>
    rw [SignIn.step]
    split
    · exact h
    · refine { sound := h.sound, inserted := h.inserted, consumed := fun login => ?_, answered := h.answered }
      rw [List.count_append, List.count_append, ← Nat.add_assoc, ← Nat.add_assoc]
      exact Nat.add_le_add_right ((Nat.add_assoc ..).trans_le (h.consumed login)) _
  | auth_callback state => exact h.auth_callback state
  | exchanged login decoded =>
    rw [SignIn.step]
    split
    · next hmem =>
      refine h.proceed hmem _ fun c hc => ?_
      obtain ⟨claims, hclaims, rfl⟩ := Option.mem_map.1 hc
      have hvalid := (Option.filter_eq_some_iff.1 hclaims).2
      exact ⟨rfl, fun _ h => Option.some.inj h ▸ of_decide_eq_true (p := _ ∧ _) hvalid⟩
    · exact h
  | establish_session login claims handle csrf session_generation =>
    rw [SignIn.step]
    split
    · next hmem => exact h.establish_session hseen hmem handle csrf session_generation
    · exact h
  | auth_logout request =>
    rw [SignIn.step]
    split
    · split <;> exact h.of_kept rfl
    · exact h
  | retire session =>
    rw [SignIn.step]
    split
    · exact h.of_kept (map_updateWhere (f := fun row : BrowserSession => { row with retired := true }) (fun _ => rfl) _)
    · exact h
  | bind_tenant session tenant_id =>
    exact h.of_kept (map_updateWhere (f := fun row : BrowserSession => { row with bound_tenant_id := some tenant_id })
      (fun _ => rfl) _)
  | change | advance => exact h.of_kept rfl

theorem SignIn.Inv.exec {run : List SignInAct} (h : s.Inv settings.expected_issuer seen)
    (hseen : ∀ pre, pre <+: run → ∀ p ∈ (s.exec settings pre).db.principals, seen p) :
    (s.exec settings run).Inv settings.expected_issuer seen := by
  induction run generalizing s with
  | nil => exact h
  | cons a run ih =>
    refine ih (h.step (hseen [] List.nil_prefix) a) fun pre hpre => ?_
    exact hseen (a :: pre) (List.cons_prefix_cons.2 ⟨rfl, hpre⟩)

end Logins

/-- **Key result.** However requests come in between of each other and wherever they stop, a stored login establishes one
session at most, and every session is one of a principal that was active, with the subject and the issuer of a token that
has the login's nonce. -/
theorem sign_in_law (settings : SignInSettings) (db : MemberDb) (now : ℕ) (run : List SignInAct) :
    ((SignIn.init db now).exec settings run).Lawful settings.expected_issuer fun principal =>
      ∃ pre, pre <+: run ∧ principal ∈ ((SignIn.init db now).exec settings pre).db.principals :=
  have hinit : (SignIn.init db now).Inv settings.expected_issuer _ :=
    ⟨⟨fun _ => le_rfl, fun _ h => absurd h List.not_mem_nil, rfl⟩, fun _ => le_rfl, fun _ h => absurd h List.not_mem_nil⟩
  (hinit.exec fun pre hpre _ hp => ⟨pre, hpre, hp⟩).toLawful

/-! ### Sessions -/

/-- The session with the handle is retired or has expired. -/
def SignIn.Ended (handle_digest : String) (s : SignIn) : Prop :=
  ∃ row, s.sessions.find? (fun r => r.handle_digest = handle_digest) = some row ∧ (row.retired = true ∨ row.expires_at ≤ s.now)

section Sessions

variable {settings : SignInSettings} {s : SignIn} {d : String}

theorem SignIn.Ended.of_update (h : s.Ended d) (p : BrowserSession → Bool) {f : BrowserSession → BrowserSession}
    (hf : ∀ r, (f r).handle_digest = r.handle_digest ∧ (f r).expires_at = r.expires_at ∧
      (r.retired = true → (f r).retired = true)) :
    SignIn.Ended d { s with sessions := updateWhere p f s.sessions } := by
  obtain ⟨row, hrow, hended⟩ := h
  refine ⟨if p row then f row else row, ?_, ?_⟩
  · rw [find?_updateWhere fun r _ => by rw [(hf r).1], hrow]
    rfl
  · split_ifs
    · exact hended.imp (hf row).2.2 (hf row).2.1.trans_le
    · exact hended

theorem SignIn.Ended.step (h : s.Ended d) (a : SignInAct) : (s.step settings a).Ended d := by
  cases a with
  | establish_session login claims handle csrf session_generation =>
    rw [SignIn.step]
    split
    · rw [SignIn.establish_session]
      split
      · dsimp only
        split
        · exact h
        · obtain ⟨row, hrow, hended⟩ := h
          exact ⟨row, (List.find?_append ..).trans (congrArg (Option.or · _) hrow), hended⟩
      · exact h
    · exact h
  | retire session =>
    rw [SignIn.step]
    split
    · exact h.of_update session.binds fun _ => ⟨rfl, rfl, fun _ => rfl⟩
    · exact h
  | bind_tenant session tenant_id => exact h.of_update session.binds fun _ => ⟨rfl, rfl, id⟩
  | change db => exact h
  | advance seconds =>
    obtain ⟨row, hrow, hended⟩ := h
    exact ⟨row, hrow, hended.imp_right (Nat.le_add_right_of_le ·)⟩
  | _ =>
    rw [SignIn.step]
    repeat' split
    all_goals exact h

end Sessions

/-- **Key result.** A session that is retired or has expired does not resolve, whatever happens from then on. -/
theorem ended_stays_ended (settings : SignInSettings) {s : SignIn} {request : BffRequest} {raw : String}
    (hcookie : request.session_cookie = some raw) (h : s.Ended (settings.digest raw)) (run : List SignInAct) :
    resolve_session settings.digest request (s.exec settings run).bff = none := by
  have hended : (s.exec settings run).Ended (settings.digest raw) := List.foldlRecOn run _ h fun _ h a _ => h.step a
  obtain ⟨row, hrow, hended⟩ := hended
  rw [resolve_session, hcookie]
  split
  · rfl
  · next raw' hraw =>
    obtain rfl := Option.some.inj (Option.filter_eq_some_iff.1 hraw).1
    rw [SignIn.bff, hrow, Option.filter_some, if_neg]
    rcases hended with h | h <;> simp [h]

/-- A login, its session and the logout that retires it. -/
theorem logged_out_stays_out :
    let settings : SignInSettings := ⟨id, "iss", 100, ⟨false, "t", "viewer", ⟨"m", "q", "a", "k"⟩⟩, rfl⟩
    let db : MemberDb := ⟨[⟨⟨"p", .human_browser_session, true⟩, some "sub", some "iss"⟩], [], [], [], [], []⟩
    let login : PendingState := ⟨"state", "nonce", 600⟩
    let claims : IdTokenClaims := ⟨"iss", "sub", "nonce"⟩
    let request : BffRequest := ⟨"POST", "", some "handle", some "csrf", some "csrf"⟩
    let session : BrowserSession := ⟨"handle", "p", "gen", "csrf", none, 100, false⟩
    let s := (SignIn.init db 0).exec settings [.auth_login "state" "nonce", .auth_callback "state",
      .exchanged login (some claims), .establish_session login claims "handle" "csrf" "gen", .auth_logout request,
      .retire session]
    resolve_session settings.digest request (s.exec settings [.bind_tenant session "t", .advance 1]).bff = none :=
  ended_stays_ended _ rfl ⟨⟨"handle", "p", "gen", "csrf", none, 100, true⟩, by decide, Or.inl rfl⟩ _

end JLMirror.Access
