import JLMirror.Access.TenantBinding
import JLMirror.Foundations.Separated

/-!
# The signed context

The shell tells the API on whose behalf it forwards a request by headers, and signs them with a secret
that the two share (`_sign_internal_context` in `bff/main.py`, `_verify_bff_context` in `api/main.py`).
The signature is over five of the fields, joined by `|`.

## The model

* `ContextFields` are the texts of the headers, `ContextHeaders` the headers of a request that reaches the
  API, from the shell or not.
* The HMAC is a parameter. Of it we assume that it has no collisions, and of the secret that nobody else
  has it: a signature that the API sees is one of a context that the shell has signed.
* The clock of the API counts microseconds.

## What is proved

* **Key result** (`verify_signed`, `fresh_str`): the API recovers what the shell has signed, for a minute.
* **Key result** (`verify_any_generation`): the generation of the session is not signed.
* **Key result** (`signed_context_iff`): what the API accepts is a context that the shell has signed if and only
  if its fields have as many separators as the signed ones.

## Honest scope

Headers arrive as they were sent, and no two of one name. The dependence of the accepted time on the
clocks of two machines is left out: both times are inputs.
-/

namespace JLMirror.Access

open Foundations

/-! ### Numbers and correlation ids as texts -/

/-- `str.isspace`, of a character that a header can have. -/
def isSpace (c : Char) : Bool :=
  c = ' ' ∨ (9 ≤ c.toNat ∧ c.toNat ≤ 13) ∨ (28 ≤ c.toNat ∧ c.toNat ≤ 31) ∨ c.toNat = 133 ∨ c.toNat = 160

/-- `str.strip()`. -/
def strip (cs : List Char) : List Char := ((cs.dropWhile isSpace).reverse.dropWhile isSpace).reverse

/-- The digits of `int()`, with single underscores between them, after `acc`. -/
def digitsValue (acc : ℕ) (afterDigit : Bool) : List Char → Option ℕ
  | [] => if afterDigit then some acc else none
  | c :: cs =>
    if c.isDigit then digitsValue (10 * acc + (c.toNat - 48)) true cs
    else if c = '_' ∧ afterDigit = true then digitsValue acc false cs
    else none

/-- `int()` of a text; `none` is the `ValueError`. -/
def int (text : String) : Option ℤ :=
  match strip text.toList with
  | '+' :: cs => (digitsValue 0 false cs).map fun n : ℕ => (n : ℤ)
  | '-' :: cs => (digitsValue 0 false cs).map fun n : ℕ => -(n : ℤ)
  | cs => (digitsValue 0 false cs).map fun n : ℕ => (n : ℤ)

/-- `str()` of a time. -/
def str (ts : ℕ) : String := toString ts

/-- A digit of `[\da-f]`. -/
def isHex (c : Char) : Bool := c.isDigit ∨ ('a' ≤ c ∧ c ≤ 'f')

/-- The trace id of a `traceparent`, by `_TRACEPARENT_RE`. -/
def traceId (traceparent : String) : Option String :=
  match (strip traceparent.toList).map Char.toLower |>.splitOn '-' with
  | [version, trace, parent, flags] =>
    if (version ++ trace ++ parent ++ flags).all isHex ∧ version.length = 2 ∧ trace.length = 32 ∧ parent.length = 16 ∧
        flags.length = 2 then some (String.ofList trace)
    else none
  | _ => none

/-- `extract_correlation_id`; `fresh` is the id that it would draw. -/
def extract_correlation_id (traceparent x_correlation_id : Option String) (fresh : String) : String :=
  match traceparent.bind traceId with
  | some trace => trace
  | none =>
    let cid := strip (x_correlation_id.getD "").toList
    if cid = [] then fresh else String.ofList cid

/-! ### Signing and verifying -/

/-- The fields of a context, as texts. -/
structure ContextFields where
  principal_id : String
  tenant_id : String
  session_digest : String
  session_generation : String
  ts : String
  correlation_id : String
  deriving DecidableEq

/-- The headers that the API reads. -/
structure ContextHeaders where
  principal_id : Option String
  session_digest : Option String
  session_generation : Option String
  tenant_id : Option String
  ts : Option String
  correlation_id : Option String
  sig : Option String
  deriving DecidableEq

/-- The context that the API uses. -/
structure Context where
  principal_id : String
  session_digest : String
  session_generation : String
  tenant_id : Option String
  correlation_id : Option String
  deriving DecidableEq

/-- The payload, as signer and verifier write it. -/
def ContextFields.payload (f : ContextFields) : String :=
  "|".intercalate [f.principal_id, f.tenant_id, f.session_digest, f.ts, f.correlation_id]

/-- The context of the fields: an empty tenant or correlation id is none. -/
def ContextFields.context (f : ContextFields) : Context where
  principal_id := f.principal_id
  session_digest := f.session_digest
  session_generation := f.session_generation
  tenant_id := if f.tenant_id = "" then none else some f.tenant_id
  correlation_id := if f.correlation_id = "" then none else some f.correlation_id

/-- The fields that the headers have, with the defaults of the API. -/
def ContextHeaders.fields (h : ContextHeaders) : ContextFields where
  principal_id := h.principal_id.getD ""
  tenant_id := h.tenant_id.getD ""
  session_digest := h.session_digest.getD ""
  session_generation := h.session_generation.getD ""
  ts := h.ts.getD ""
  correlation_id := h.correlation_id.getD ""

/-- `_CONTEXT_MAX_SKEW_SECONDS`. -/
def CONTEXT_MAX_SKEW_SECONDS : ℕ := 60

/-- The time on the API's clock is within the skew of the text. -/
def fresh (micros : ℤ) (ts : String) : Bool :=
  match int ts with
  | none => false
  | some t => (micros - 1000000 * t).natAbs ≤ 1000000 * CONTEXT_MAX_SKEW_SECONDS

section Signature

variable (hmac : String → String → String) (secret : String)

/-- What the shell sends for a session that it forwards for. -/
def signedFields (session : BrowserSession) (ts : ℕ) (correlation_id : String) : ContextFields where
  principal_id := session.principal_id
  tenant_id := session.bound_tenant_id.getD ""
  session_digest := session.handle_digest
  session_generation := session.session_generation
  ts := str ts
  correlation_id := correlation_id

/-- `_sign_internal_context` and the headers with it. -/
def signedHeaders (f : ContextFields) : ContextHeaders where
  principal_id := some f.principal_id
  session_digest := some f.session_digest
  session_generation := some f.session_generation
  tenant_id := some f.tenant_id
  ts := some f.ts
  correlation_id := some f.correlation_id
  sig := some (hmac secret f.payload)

/-- `_verify_bff_context`. -/
def verify_bff_context (micros : ℤ) (h : ContextHeaders) : Option Context :=
  if h.fields.principal_id = "" ∨ h.fields.session_digest = "" ∨ h.fields.session_generation = "" ∨ h.fields.ts = "" ∨
      h.sig.getD "" = "" then none
  else if fresh micros h.fields.ts = false then none
  else if hmac secret h.fields.payload = h.sig.getD "" then some h.fields.context
  else none

end Signature

/-- `_session_current`. -/
def session_current (now : ℕ) (sessions : List BrowserSession) (db : AccessDb) (ctx : Context) : Bool :=
  sessions.any fun s => s.handle_digest = ctx.session_digest ∧ s.session_generation = ctx.session_generation ∧
    s.principal_id = ctx.principal_id ∧ s.retired = false ∧ now < s.expires_at ∧
      db.principals.any fun p => p.principal_id = s.principal_id ∧ p.active

/-! ### Times as texts -/

theorem digitChar_isDigit : ∀ d < 10, (Nat.digitChar d).isDigit = true ∧ (Nat.digitChar d).toNat - 48 = d := by
  decide

/-- Digits are read one after the other. -/
theorem digitsValue_append_digit (cs : List Char) {d : ℕ} (hd : d < 10) (acc : ℕ) (b : Bool) {n : ℕ}
    (h : digitsValue acc b cs = some n) : digitsValue acc b (cs ++ [Nat.digitChar d]) = some (10 * n + d) := by
  obtain ⟨hdig, hval⟩ := digitChar_isDigit d hd
  induction cs generalizing acc b with
  | nil =>
    rw [digitsValue] at h
    split_ifs at h
    obtain rfl := Option.some.inj h
    simp [digitsValue, hdig, hval]
  | cons c cs ih =>
    rw [digitsValue] at h
    rw [List.cons_append, digitsValue]
    split_ifs at h ⊢
    · exact ih _ _ h
    · exact ih _ _ h

/-- The digits of a number are read as the number. -/
theorem digitsValue_toDigits (n : ℕ) : digitsValue 0 false (Nat.toDigits 10 n) = some n := by
  induction n using Nat.strong_induction_on with
  | _ n ih =>
    by_cases hn : n < 10
    · obtain ⟨hdig, hval⟩ := digitChar_isDigit n hn
      rw [Nat.toDigits_of_lt_base hn]
      simp [digitsValue, hdig, hval]
    · rw [Nat.toDigits_of_base_le (by omega) (by omega)]
      rw [digitsValue_append_digit _ (Nat.mod_lt n (by omega)) _ _ (ih (n / 10) (by omega))]
      congr 1
      omega

theorem isSpace_of_isDigit {c : Char} (h : c.isDigit = true) : isSpace c = false := by
  have hval : 48 ≤ c.toNat ∧ c.toNat ≤ 57 := by
    simpa [Char.isDigit, UInt32.le_iff_toNat_le] using h
  have hne : c ≠ ' ' := by
    rintro rfl
    exact absurd hval (by decide)
  simp [isSpace, hne]
  omega

theorem strip_eq_self {cs : List Char} (h : ∀ c ∈ cs, isSpace c = false) : strip cs = cs := by
  have hdrop : ∀ l : List Char, (∀ c ∈ l, isSpace c = false) → l.dropWhile isSpace = l := by
    intro l hl
    cases l with
    | nil => rfl
    | cons c l => rw [List.dropWhile_cons, hl c List.mem_cons_self]; rfl
  rw [strip, hdrop cs h, hdrop cs.reverse fun c hc => h c (List.mem_reverse.1 hc), List.reverse_reverse]

/-- **Key result.** A time that is written is read back. -/
theorem int_str (n : ℕ) : int (str n) = some (n : ℤ) := by
  have hdigits : ∀ c ∈ Nat.toDigits 10 n, c.isDigit = true := fun c hc =>
    Nat.isDigit_of_mem_toDigits (by omega) (by omega) hc
  have hstrip : strip (str n).toList = Nat.toDigits 10 n := by
    rw [str, Nat.toString_eq_repr, Nat.toList_repr]
    exact strip_eq_self fun c hc => isSpace_of_isDigit (hdigits c hc)
  rw [int, hstrip]
  split
  · rename_i cs hcs
    exact absurd (hdigits '+' (hcs ▸ List.mem_cons_self)) (by decide)
  · rename_i cs hcs
    exact absurd (hdigits '-' (hcs ▸ List.mem_cons_self)) (by decide)
  · rw [digitsValue_toDigits, Option.map_some]

theorem str_ne_empty (n : ℕ) : str n ≠ "" := by
  intro h
  have hint := int_str n
  rw [h] at hint
  exact absurd hint (by simp [int, strip, digitsValue])

/-! ### What the API recovers -/

section Recovered

variable {hmac : String → String → String} {secret : String}

/-- What we assume of the HMAC: hexadecimal digits, and no two messages with the same. -/
structure CollisionFree (hmac : String → String → String) (secret : String) : Prop where
  nonempty : ∀ message, hmac secret message ≠ ""
  injective : ∀ message message', hmac secret message = hmac secret message' → message = message'

/-- The rows of sessions: a digest and a generation are drawn at random, a principal has an id. -/
structure BrowserSession.Named (session : BrowserSession) : Prop where
  handle_digest : session.handle_digest ≠ ""
  principal_id : session.principal_id ≠ ""
  session_generation : session.session_generation ≠ ""

/-- What the API makes of headers that it accepts. -/
theorem verify_bff_context_eq_some {micros : ℤ} {h : ContextHeaders} {ctx : Context}
    (hv : verify_bff_context hmac secret micros h = some ctx) :
    ctx = h.fields.context ∧ h.sig = some (hmac secret h.fields.payload) ∧ fresh micros h.fields.ts = true := by
  unfold verify_bff_context at hv
  split_ifs at hv with hne hfresh hsig
  refine ⟨(Option.some.inj hv).symm, ?_, by simpa using hfresh⟩
  simp only [not_or] at hne
  cases hs : h.sig with
  | none => simp [hs] at hne
  | some sig => rw [hsig, hs, Option.getD_some]

theorem fresh_str {micros : ℤ} {ts : ℕ} : fresh micros (str ts) = true ↔ (micros - 1000000 * ts).natAbs ≤ 60000000 := by
  rw [fresh, int_str]
  exact decide_eq_true_iff

/-- **Key result.** While the time is fresh the API recovers the context that the shell signed. -/
theorem verify_signed (hfree : CollisionFree hmac secret) {session : BrowserSession} (hn : session.Named) {ts : ℕ}
    {correlation_id : String} {micros : ℤ} (hfresh : fresh micros (str ts) = true) :
    verify_bff_context hmac secret micros (signedHeaders hmac secret (signedFields session ts correlation_id)) =
      some (signedFields session ts correlation_id).context := by
  have hfields : (signedHeaders hmac secret (signedFields session ts correlation_id)).fields =
      signedFields session ts correlation_id := rfl
  rw [verify_bff_context, hfields]
  simp [signedHeaders, signedFields, hn.handle_digest, hn.principal_id, hn.session_generation, str_ne_empty,
    hfree.nonempty, hfresh]

/-- **Key result.** The generation of the session is outside of the signature. -/
theorem verify_any_generation {micros : ℤ} {h : ContextHeaders} {ctx : Context}
    (hv : verify_bff_context hmac secret micros h = some ctx) {generation : String} (hg : generation ≠ "") :
    verify_bff_context hmac secret micros { h with session_generation := some generation } =
      some { ctx with session_generation := generation } := by
  obtain ⟨rfl, hsig, hfresh⟩ := verify_bff_context_eq_some hv
  have hfields : ({ h with session_generation := some generation } : ContextHeaders).fields =
      { h.fields with session_generation := generation } := rfl
  have hpayload : ({ h.fields with session_generation := generation } : ContextFields).payload = h.fields.payload := rfl
  unfold verify_bff_context at hv ⊢
  split_ifs at hv with hne
  simp only [not_or] at hne
  obtain ⟨hp, hd, -, ht, hs⟩ := hne
  rw [hfields, hpayload]
  simp only [hp, hd, hg, ht, hs, or_self, if_false, hfresh, Bool.true_eq_false]
  simp [hsig, ContextFields.context]

end Recovered

/-! ### What the API accepts -/

/-- The API accepts the headers and uses the context. -/
def accepts (hmac : String → String → String) (secret : String) (micros : ℤ) (now : ℕ) (sessions : List BrowserSession)
    (db : AccessDb) (h : ContextHeaders) : Option Context :=
  (verify_bff_context hmac secret micros h).filter (session_current now sessions db)

/-- The shell has signed the fields, for a session whose row is in the table. -/
def SignedFor (sessions : List BrowserSession) (f : ContextFields) : Prop :=
  ∃ (session : BrowserSession) (ts : ℕ) (correlation_id : String), session.Named ∧
    f = signedFields session ts correlation_id ∧
      ∃ row ∈ sessions, row.handle_digest = session.handle_digest ∧ row.principal_id = session.principal_id ∧
        row.session_generation = session.session_generation

/-- How many separators the signed fields have, the last apart. -/
def ContextFields.separators (f : ContextFields) : List ℕ :=
  [f.principal_id, f.tenant_id, f.session_digest, f.ts].map fun text => text.toList.count '|'

/-- The payload says what the fields are, given their separators. -/
theorem payload_inj {f g : ContextFields} (h : f.payload = g.payload) (hsep : f.separators = g.separators) :
    f = { g with session_generation := f.session_generation } := by
  have hjoin : ['|'].intercalate
      [f.principal_id.toList, f.tenant_id.toList, f.session_digest.toList, f.ts.toList, f.correlation_id.toList] =
        ['|'].intercalate
          [g.principal_id.toList, g.tenant_id.toList, g.session_digest.toList, g.ts.toList, g.correlation_id.toList] := by
    simpa [ContextFields.payload] using congrArg String.toList h
  have heq := intercalate_inj hjoin rfl (by simpa [ContextFields.separators] using hsep)
  simp only [List.cons.injEq, String.toList_inj, and_true] at heq
  obtain ⟨hp, ht, hd, hts, hc⟩ := heq
  cases f
  cases g
  simp_all

/-- What the API uses besides the time, and the time, are all the fields. -/
theorem context_inj {f g : ContextFields} (h : f.context = g.context) (hts : f.ts = g.ts) : f = g := by
  have hopt : ∀ a b : String, (if a = "" then none else some a) = (if b = "" then none else some b) → a = b := by
    intro a b hab
    split_ifs at hab with ha hb hb
    · rw [ha, hb]
    · exact Option.some.inj hab
  simp only [ContextFields.context, Context.mk.injEq] at h
  obtain ⟨hp, hd, hg, ht, hc⟩ := h
  have ht := hopt _ _ ht
  have hc := hopt _ _ hc
  cases f
  cases g
  simp_all

section Accepted

variable {hmac : String → String → String} {secret : String} {micros : ℤ} {now : ℕ} {sessions : List BrowserSession}
  {db : AccessDb} {signed : List ContextFields} {h : ContextHeaders} {ctx : Context}

theorem accepts_eq_some (ha : accepts hmac secret micros now sessions db h = some ctx) :
    verify_bff_context hmac secret micros h = some ctx ∧ ∃ row ∈ sessions, row.handle_digest = ctx.session_digest ∧
      row.session_generation = ctx.session_generation := by
  obtain ⟨hv, hcur⟩ := Option.filter_eq_some_iff.1 ha
  obtain ⟨row, hrow, hcur⟩ := List.any_eq_true.1 hcur
  obtain ⟨hd, hg, -⟩ := of_decide_eq_true hcur
  exact ⟨hv, row, hrow, hd, hg⟩

/-- **Key result.** What the API accepts is signed by the shell if and only if its fields have as many
separators as those that the signature is of. -/
theorem authentic_iff (hfree : CollisionFree hmac secret) (hkey : (sessions.map BrowserSession.handle_digest).Nodup)
    (hsigned : ∀ f ∈ signed, SignedFor sessions f)
    (ha : accepts hmac secret micros now sessions db h = some ctx) :
    (∃ f ∈ signed, ctx = f.context ∧ h.fields.ts = f.ts) ↔
      ∃ f ∈ signed, h.sig = some (hmac secret f.payload) ∧ h.fields.separators = f.separators := by
  obtain ⟨hv, row, hrow, hd, hg⟩ := accepts_eq_some ha
  obtain ⟨rfl, hsig, -⟩ := verify_bff_context_eq_some hv
  constructor
  · rintro ⟨f, hf, hctx, hts⟩
    obtain rfl := context_inj hctx hts
    exact ⟨_, hf, hsig, rfl⟩
  · rintro ⟨f, hf, hsigf, hsep⟩
    have hpayload := hfree.injective _ _ (Option.some.inj (hsig.symm.trans hsigf))
    have heq := payload_inj hpayload hsep
    refine ⟨f, hf, ?_, by rw [heq]⟩
    -- the generation is not signed: it is that of the row with the digest
    obtain ⟨session, ts, correlation_id, -, rfl, row', hrow', hd', -, hg'⟩ := hsigned f hf
    have hdigest : h.fields.session_digest = session.handle_digest := by rw [heq]; rfl
    obtain rfl : row = row' := eq_of_key hkey hrow hrow' (hd.trans (hdigest.trans hd'.symm))
    have hgen : h.fields.session_generation = session.session_generation := hg.symm.trans hg'
    rw [heq, hgen]
    rfl

/-- The API recovers what the shell has signed, while the time on it is fresh. -/
def Recovered (hmac : String → String → String) (secret : String) (signed : List ContextFields) : Prop :=
  ∀ f ∈ signed, ∀ micros, fresh micros f.ts = true →
    verify_bff_context hmac secret micros (signedHeaders hmac secret f) = some f.context

/-- The context, with the time, is one that the shell has signed. -/
def Authentic (signed : List ContextFields) (h : ContextHeaders) (ctx : Context) : Prop :=
  ∃ f ∈ signed, ctx = f.context ∧ h.fields.ts = f.ts

/-- The fields have as many separators as those of a signed context with the signature. -/
def Unsplit (hmac : String → String → String) (secret : String) (signed : List ContextFields) (h : ContextHeaders) :
    Prop :=
  ∃ f ∈ signed, h.sig = some (hmac secret f.payload) ∧ h.fields.separators = f.separators

/-- **Key result.** The API recovers what is signed, and what it accepts is signed if and only if the fields
have as many separators as the signed ones. -/
theorem signed_context_iff (hfree : CollisionFree hmac secret)
    (hkey : (sessions.map BrowserSession.handle_digest).Nodup) (hsigned : ∀ f ∈ signed, SignedFor sessions f)
    (ha : accepts hmac secret micros now sessions db h = some ctx) :
    Recovered hmac secret signed ∧ Authentic signed h ctx ↔ Unsplit hmac secret signed h := by
  have hrecovered : Recovered hmac secret signed := by
    intro f hf micros hfresh
    obtain ⟨session, ts, correlation_id, hn, rfl, -⟩ := hsigned f hf
    exact verify_signed hfree hn hfresh
  exact ⟨fun h' => (authentic_iff hfree hkey hsigned ha).1 h'.2,
    fun h' => ⟨hrecovered, (authentic_iff hfree hkey hsigned ha).2 h'⟩⟩

end Accepted

/-- A code without collisions. -/
def plainCode (secret message : String) : String := secret ++ ":" ++ message

theorem plainCode_collisionFree : CollisionFree plainCode "k" where
  nonempty message := by
    intro h
    simpa [plainCode] using congrArg String.toList h
  injective message message' h := by
    simpa [plainCode] using h

/-- The session of a user. -/
def userSession : BrowserSession := ⟨"d", "p", "gen", "c", some "t", 100, false⟩

/-- The user, and nothing else. -/
def userDb : AccessDb := ⟨[⟨"p", .human_browser_session, true⟩], [], [], [], []⟩

/-- What is signed for a request of the user, who chooses the correlation id. -/
def chosenFields : ContextFields :=
  signedFields userSession 50 (extract_correlation_id none (some "d|50|x") "fresh")

theorem chosenFields_signedFor : ∀ f ∈ [chosenFields], SignedFor [userSession] f := by
  intro f hf
  obtain rfl := List.mem_singleton.1 hf
  exact ⟨userSession, 50, _, ⟨by decide, by decide, by decide⟩, rfl, userSession, List.mem_singleton_self _, rfl, rfl, rfl⟩

/-- The headers of the shell, as they are. -/
theorem signed_context_iff_unsplit :
    Recovered plainCode "k" [chosenFields] ∧
        Authentic [chosenFields] (signedHeaders plainCode "k" chosenFields) chosenFields.context ↔
      Unsplit plainCode "k" [chosenFields] (signedHeaders plainCode "k" chosenFields) := by
  have ha : accepts plainCode "k" 50000000 50 [userSession] userDb (signedHeaders plainCode "k" chosenFields) =
      some chosenFields.context := by decide
  exact signed_context_iff plainCode_collisionFree (by decide) chosenFields_signedFor ha

/-- The same signature on another split of the payload: part of the correlation id is in the tenant's. -/
def otherSplit : ContextHeaders :=
  { signedHeaders plainCode "k" chosenFields with tenant_id := some "t|d|50", correlation_id := some "x" }

/-- The API accepts it, for a tenant that nobody has signed. -/
theorem signed_context_split : ¬∀ (hmac : String → String → String) (secret : String) (micros : ℤ) (now : ℕ)
    (sessions : List BrowserSession) (db : AccessDb) (signed : List ContextFields) (h : ContextHeaders) (ctx : Context),
    CollisionFree hmac secret → (sessions.map BrowserSession.handle_digest).Nodup →
      (∀ f ∈ signed, SignedFor sessions f) → accepts hmac secret micros now sessions db h = some ctx →
        Recovered hmac secret signed ∧ Authentic signed h ctx := by
  intro h
  have hsafe := h plainCode "k" 50000000 50 [userSession] userDb [chosenFields] otherSplit otherSplit.fields.context
    plainCode_collisionFree (by decide) chosenFields_signedFor (by decide)
  obtain ⟨f, hf, hctx, -⟩ := hsafe.2
  obtain rfl := List.mem_singleton.1 hf
  exact absurd hctx (by decide)

end JLMirror.Access
