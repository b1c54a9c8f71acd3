import LoginCallback.Proofs.Authentication.Parallel
import LoginCallback.Proofs.Engine.Isolation
import LoginCallback.Proofs.Exchange.Secrets
import Mathlib.Data.List.Forall2

/-!
# What the journal shows of an exchange with the provider

Two engines send the same requests but for their secrets, and get the same answers. If they do not
trace, nothing on the wire tells them apart afterwards (`Http.Discreet`): the recorder keeps and the
journal shows the same. It is enough that what is drafted for one request looks like what is drafted
for the other once it is redacted (`Draft.LooksLike`). Main statements: `parallel_authenticate`, for
the code and the secret of the client, and `parallel_loadUser`, for the access token.
-/

namespace LoginCallback

namespace Http

variable {τ : Type}

/-! ## Drafts -/

/-- What redaction leaves of one draft is what it leaves of the other. -/
structure Draft.LooksLike (d d' : Draft) : Prop where
  method : d.method = d'.method
  address : d.address = d'.address
  check : checkHeaders d.headers = checkHeaders d'.headers
  headers : Exchange.redactHeaders d.headers = Exchange.redactHeaders d'.headers
  body : redact d.body = redact d'.body
  empty : d.body.isEmpty = d'.body.isEmpty
  contentHeaders : d.contentHeaders = d'.contentHeaders
  credentials : d.credentials.map redact = d'.credentials.map redact

theorem Draft.looksLike_refl (d : Draft) : d.LooksLike d := ⟨rfl, rfl, rfl, rfl, rfl, rfl, rfl, rfl⟩

theorem redactHeaders_insert (hs : Headers) (name value : String) :
    Exchange.redactHeaders (hs.insert name value) =
      (Exchange.redactHeaders hs).insert name (redact value) := by
  induction hs with
  | nil => rfl
  | cons h hs ih =>
    obtain ⟨n, v⟩ := h
    unfold Headers.insert
    by_cases hn : (n == name) = true
    · rw [if_pos hn]
      simp [Exchange.redactHeaders, hn]
    · rw [if_neg hn]
      unfold Exchange.redactHeaders at ih ⊢
      simp [hn, ih]

theorem Draft.LooksLike.redactHeaders_toRequest {d d' : Draft} (h : d.LooksLike d') (a : Address)
    (cookie : Option String) : Exchange.redactHeaders (d.toRequest a cookie).headers =
      Exchange.redactHeaders (d'.toRequest a cookie).headers := by
  have hplain : Exchange.redactHeaders (d.headers ++ (cookie.map fun c => ("cookie", c)).toList ++
      d.contentHeaders) = Exchange.redactHeaders (d'.headers ++
        (cookie.map fun c => ("cookie", c)).toList ++ d'.contentHeaders) := by
    have hheaders := h.headers
    unfold Exchange.redactHeaders at hheaders ⊢
    rw [List.map_append, List.map_append, List.map_append, List.map_append, hheaders,
      h.contentHeaders]
  have hcredentials : ∀ (hs : Headers) (credentials : Option String),
      Exchange.redactHeaders (credentials.elim hs (hs.insert "authorization")) =
        (credentials.map redact).elim (Exchange.redactHeaders hs)
          ((Exchange.redactHeaders hs).insert "authorization") := by
    intro hs credentials
    cases credentials with
    | none => rfl
    | some c => exact redactHeaders_insert hs "authorization" c
  have hsame : ∀ other : Option String, (d.credentials <|> other).map redact =
      (d'.credentials <|> other).map redact := by
    intro other
    have hown := h.credentials
    cases hd : d.credentials with
    | none =>
      rw [hd] at hown
      rw [Option.map_eq_none_iff.1 hown.symm]
    | some c =>
      rw [hd] at hown
      obtain ⟨c', hd', hc⟩ := Option.map_eq_some_iff.1 hown.symm
      rw [hd']
      exact congrArg some hc.symm
  rw [Draft.headers_toRequest, Draft.headers_toRequest, hcredentials, hcredentials, hplain, hsame]

theorem Draft.LooksLike.redacted_exchange {d d' : Draft} (h : d.LooksLike d') (a : Address)
    (cookie : Option String) (n : Nat) (now : Time.Moment) :
    ((d.toRequest a cookie).exchange n now).redacted =
      ((d'.toRequest a cookie).exchange n now).redacted := by
  have hbody : (if (d.toRequest a cookie).body.isEmpty then none
      else some (d.toRequest a cookie).body).map redact =
        (if (d'.toRequest a cookie).body.isEmpty then none
          else some (d'.toRequest a cookie).body).map redact := by
    show (if d.body.isEmpty then none else some d.body).map redact =
      (if d'.body.isEmpty then none else some d'.body).map redact
    rw [h.empty]
    split
    · rfl
    · exact congrArg some h.body
  simp only [Exchange.redacted, Request.exchange, Draft.method_toRequest, Draft.address_toRequest,
    h.redactHeaders_toRequest a cookie, h.method, hbody]

/-! ## The wire -/

/-- The wires are the same, and what is recorded on them is redacted. -/
structure Discreet (w w' : Wire τ) : Prop where
  eq : w = w'
  notSensitive : w.recorder.sensitive = false

theorem Wire.record_congr (w : Wire τ) (hw : w.recorder.sensitive = false) {e e' : Exchange}
    (h : e.redacted = e'.redacted) : w.record e = w.record e' := by
  unfold Wire.record
  rw [Recorder.record_congr hw h]

theorem redacted_complete {e e' : Exchange} (h : e.redacted = e'.redacted) (reply : Reply) :
    (reply.complete e).redacted = (reply.complete e').redacted := by
  have hcomplete : ∀ e : Exchange, (reply.complete e).redacted =
      { e.redacted with
        responseStatus := some reply.status
        responseHeaders := Exchange.redactHeaders reply.joined
        responseBody := some (redact reply.bodyText) } := fun _ => rfl
  rw [hcomplete, hcomplete, h]

theorem redacted_error {e e' : Exchange} (h : e.redacted = e'.redacted) (error : Option String) :
    ({ e with error } : Exchange).redacted = ({ e' with error } : Exchange).redacted := by
  have herror : ∀ e : Exchange, ({ e with error } : Exchange).redacted =
      { e.redacted with error } := fun _ => rfl
  rw [herror, herror, h]

theorem transmit_congr [Platform] {now : Time.Moment} {c : Client} {r r' : Request} {w : Wire Script}
    (hw : w.recorder.sensitive = false) (ha : r.address = r'.address)
    (hr : ∀ n now, (r.exchange n now).redacted = (r'.exchange n now).redacted) :
    c.transmit scripted now r w = c.transmit scripted now r' w := by
  have hanswer : (scripted r).runOn w.provider = (scripted r').runOn w.provider := rfl
  have hrecord : ∀ (script : Script) (e e' : Exchange), e.redacted = e'.redacted →
      Wire.record { w with provider := script, client := some { c with sent := c.sent + 1 } } e =
        Wire.record { w with provider := script, client := some { c with sent := c.sent + 1 } } e' :=
    fun script e e' h => Wire.record_congr
      { w with provider := script, client := some { c with sent := c.sent + 1 } } hw h
  unfold Client.transmit
  rw [hanswer, ha]
  rcases (scripted r').runOn w.provider with ⟨e | reply, script⟩
  · dsimp only
    rw [hrecord script _ _ (redacted_error (hr _ _) _)]
  · dsimp only
    rw [hrecord script _ _ (redacted_complete (hr _ _) reply)]

theorem sensitive_transmit [Platform] {p : Provider τ} {now : Time.Moment} {c : Client} {r : Request}
    {w : Wire τ} : (c.transmit p now r w).2.recorder.sensitive = w.recorder.sensitive := by
  unfold Client.transmit
  rcases (p r).runOn w.provider with ⟨e | reply, s⟩ <;> rfl

/-- Requests that look alike are answered alike and leave the same on the wire. -/
theorem parallel_send [Platform] (now : Time.Moment) {d d' : Draft} (h : d.LooksLike d') :
    Action.Parallel Discreet Eq (send scripted now d) (send scripted now d') := by
  rintro w _ ⟨rfl, hw⟩
  unfold send
  rw [Action.runOn_ofFn, Action.runOn_ofFn, ← h.address, ← h.check]
  dsimp only
  cases Draft.readAddress d.address with
  | error e => exact ⟨.error e, rfl, hw⟩
  | ok a =>
    cases Draft.checkHeaders d.headers with
    | error e => exact ⟨.error e, rfl, hw⟩
    | ok _ =>
      dsimp only
      have hsame : ∀ cookie : Option String,
          w.opened.transmit scripted now (d.toRequest a cookie) { w with client := some w.opened } =
            w.opened.transmit scripted now (d'.toRequest a cookie)
              { w with client := some w.opened } :=
        fun cookie => transmit_congr hw rfl fun n now => h.redacted_exchange a cookie n now
      rw [← hsame]
      exact ⟨alike_of_eq rfl, rfl, sensitive_transmit.trans hw⟩

/-- What redaction leaves of the credentials of a client depends on neither name nor secret. -/
theorem redact_draft_basic (name secret : String) :
    redact (Draft.basic name secret) = "Basic [REDACTED]" := by
  have hvalue : ∀ c ∈ Octets.toBase64 (Octets.ofText (name ++ ":" ++ secret)),
      Text.isBlank c = false := by
    intro c hc
    have hbounds := Octets.toNat_of_mem_toBase64 hc
    exact Text.isBlank_of_printable (by omega)
  have hne : Octets.toBase64 (Octets.ofText (name ++ ":" ++ secret)) ≠ [] := by
    have hcolon : ':' ∈ (name ++ ":" ++ secret).toList := by simp
    refine Octets.toBase64_ne_nil (Octets.ofText_ne_nil fun hempty => ?_)
    rw [hempty] at hcolon
    cases hcolon
  exact redact_basic (fun h => hne (String.ofList_eq_empty_iff.1 h))
    (by rwa [String.toList_ofList])

end Http

/-! ## The engine -/

/-- The registrations are the same, except that each may have a secret of its own. -/
def Registration.SameButSecret (r r' : Registration) : Prop :=
  r = r' ∨ ∃ secret secret', secret ≠ "" ∧ secret' ≠ "" ∧ r.clientSecret = .text secret ∧
    r' = { r with clientSecret := .text secret' }

/-- The tokens are the same as far as an engine reads them, except for the code and the secret of
the client. -/
structure LoginToken.SameButSecret (t t' : LoginToken) : Prop where
  registration : t.registration.SameButSecret t'.registration
  redirectUri : t.request.redirectUri = t'.request.redirectUri
  scopes : t.request.scopes = t'.request.scopes
  callback : t.response.redirectUri = t'.response.redirectUri
  code : t.response.code.getD "" ≠ ""
  code' : t'.response.code.getD "" ≠ ""

/-- Not empty, and written in printable characters of ASCII other than the blank. -/
def Printable (text : String) : Prop :=
  text ≠ "" ∧ ∀ c ∈ text.toList, 33 ≤ c.toNat ∧ c.toNat ≤ 126

namespace HttpEngine

open LoginCallback.Http

variable {r r' : Registration}

theorem forall₂_formFields (name : String) (v : Value) :
    List.Forall₂ LoginCallback.SameButSecret (formFields name v) (formFields name v) :=
  List.forall₂_same.2 fun _ _ => ⟨rfl, Or.inl rfl⟩

/-- The forms in which the codes are sent. -/
theorem forall₂_tokenFields (h : r.SameButSecret r') {code code' : String} (hcode : code ≠ "")
    (hcode' : code' ≠ "") (redirectUri : Value) :
    List.Forall₂ LoginCallback.SameButSecret (tokenFields r code redirectUri)
      (tokenFields r' code' redirectUri) := by
  have hfirst : List.Forall₂ LoginCallback.SameButSecret
      ([("grant_type", "authorization_code"), ("code", code)] ++ formFields "redirect_uri" redirectUri)
      ([("grant_type", "authorization_code"), ("code", code')] ++
        formFields "redirect_uri" redirectUri) :=
    .cons ⟨rfl, Or.inl rfl⟩ (.cons ⟨rfl, Or.inr ⟨Or.inl rfl, hcode, hcode'⟩⟩
      (forall₂_formFields _ _))
  unfold tokenFields
  refine List.rel_append hfirst ?_
  rcases h with rfl | ⟨secret, secret', hsecret, hsecret', hr, rfl⟩
  · exact List.forall₂_same.2 fun _ _ => ⟨rfl, Or.inl rfl⟩
  · have hgiven := Value.truthy_text hsecret
    have hgiven' := Value.truthy_text hsecret'
    cases r.authentication with
    | secretBasic => exact .nil
    | none => exact forall₂_formFields _ _
    | secretPost =>
      dsimp only
      rw [hr, hgiven, hgiven', if_pos rfl, if_pos rfl]
      exact List.rel_append (forall₂_formFields _ _)
        (.cons ⟨rfl, Or.inr ⟨Or.inr rfl, hsecret, hsecret'⟩⟩ .nil)

/-- The credentials in the header, if the client proves itself with them. -/
theorem alike_credentials? (h : r.SameButSecret r') :
    Alike (fun c c' => c.map redact = c'.map redact) (credentials? r) (credentials? r') := by
  rcases h with rfl | ⟨secret, secret', hsecret, hsecret', hr, rfl⟩
  · exact (alike_of_eq rfl).mono fun _ _ h => congrArg _ h
  · have hgiven := Value.truthy_text hsecret
    have hgiven' := Value.truthy_text hsecret'
    unfold credentials?
    cases r.authentication with
    | secretPost => exact .ok rfl
    | none => exact .ok rfl
    | secretBasic =>
      dsimp only
      rw [hr, hgiven, hgiven', if_pos rfl, if_pos rfl]
      refine (alike_of_eq rfl).bind fun name name' hname => ?_
      refine Alike.ok ?_
      rw [Option.map_some, Option.map_some, redact_draft_basic, redact_draft_basic]

theorem alike_tokenRequest (h : r.SameButSecret r') {code code' : String} (hcode : code ≠ "")
    (hcode' : code' ≠ "") (redirectUri : Value) :
    Alike Draft.LooksLike (tokenRequest r code redirectUri) (tokenRequest r' code' redirectUri) := by
  have haddress : r.tokenUri = r'.tokenUri := by
    rcases h with rfl | ⟨_, _, -, -, -, rfl⟩ <;> rfl
  have hbody : ∀ (r : Registration) (code : String),
      (Octets.encodeForm (tokenFields r code redirectUri)).isEmpty = false := by
    intro r code
    have hne : Octets.encodeForm (tokenFields r code redirectUri) ≠ "" := by
      intro hempty
      have hnil := String.ofList_eq_empty_iff.1 hempty
      simp [tokenFields, Octets.joinWith, Octets.encodeField] at hnil
    simpa using hne
  unfold tokenRequest
  refine (alike_credentials? h).bind fun credentials credentials' hcredentials => ?_
  refine Alike.ok ⟨rfl, haddress, rfl, rfl, ?_, ?_, rfl, hcredentials⟩
  · exact redact_form_congr (forall₂_tokenFields h hcode hcode' redirectUri)
  · dsimp only
    rw [hbody, hbody]

theorem parallel_exchangeCode [Platform] (now : Time.Moment) (h : r.SameButSecret r')
    {code code' : String} (hcode : code ≠ "") (hcode' : code' ≠ "") (redirectUri : Value)
    (requested : List Value) :
    Action.Parallel Discreet Eq (exchangeCode scripted now r code redirectUri requested)
      (exchangeCode scripted now r' code' redirectUri requested) := by
  unfold exchangeCode
  refine (Action.parallel_lift (alike_tokenRequest h hcode hcode' redirectUri)).bind
    fun draft draft' hdraft => ?_
  refine (parallel_send now hdraft).outcome.bind fun answer answer' hanswer => ?_
  cases hanswer with
  | error e => exact Action.parallel_throw _
  | ok hreply =>
    subst hreply
    exact Action.parallel_lift (alike_of_eq rfl)

/-- The look-up of the user reads no secret. -/
theorem parallel_loadUser [Platform] (now : Time.Moment) (h : r.SameButSecret r') {t t' : AccessToken}
    (hrequest : (userRequest r t).LooksLike (userRequest r' t')) :
    Action.Parallel Discreet Eq (loadUser scripted now r t) (loadUser scripted now r' t') := by
  have hloads : ∀ r, (userRequest r t).LooksLike (userRequest r t') →
      Action.Parallel Discreet Eq (loadUser scripted now r t) (loadUser scripted now r t') := by
    intro r hrequest
    unfold loadUser
    split
    · exact Action.parallel_lift (alike_of_eq rfl)
    · refine (parallel_send now hrequest).outcome.bind fun answer answer' hanswer => ?_
      cases hanswer with
      | error e => exact Action.parallel_throw _
      | ok hreply =>
        subst hreply
        exact Action.parallel_lift (alike_of_eq rfl)
  rcases h with rfl | ⟨_, _, -, -, -, rfl⟩
  · exact hloads r hrequest
  · exact hloads r hrequest

theorem parallel_authenticate [Platform] (now : Time.Moment) {t t' : LoginToken}
    (h : t.SameButSecret t') :
    Action.Parallel Discreet (fun t t' => t.filled = t'.filled) (authenticate scripted now t)
      (authenticate scripted now t') := by
  have hid : t.registration.id = t'.registration.id := by
    rcases h.registration with heq | ⟨_, _, -, -, -, heq⟩ <;> rw [heq]
  have hrequest : ∀ token, (userRequest t.registration token).LooksLike
      (userRequest t'.registration token) := by
    intro token
    rcases h.registration with heq | ⟨_, _, -, -, -, heq⟩
    · rw [heq]
      exact Draft.looksLike_refl _
    · rw [heq]
      exact Draft.looksLike_refl _
  unfold authenticate
  rw [h.redirectUri, h.callback, h.scopes, hid]
  split
  · exact Action.parallel_lift (.error _)
  · refine (Action.parallel_change ?_).bind fun _ _ _ => ?_
    · rintro w _ ⟨rfl, hw⟩
      exact ⟨rfl, hw⟩
    refine (parallel_exchangeCode now h.registration h.code h.code' _ _).bind ?_
    rintro token _ rfl
    refine (parallel_loadUser now h.registration (hrequest token)).bind ?_
    rintro user _ rfl
    exact Action.parallel_pure rfl

/-- What is sent with one access token looks like what is sent with another. -/
theorem looksLike_userRequest (r : Registration) (t : AccessToken) {value value' : String}
    (h : Printable value) (h' : Printable value') :
    (userRequest r { t with tokenValue := .text value }).LooksLike
      (userRequest r { t with tokenValue := .text value' }) := by
  have hredact : ∀ value, Printable value → redact ("Bearer " ++ value) = "Bearer [REDACTED]" := by
    intro value h
    have hsplit : "Bearer " ++ value = "Bearer" ++ " " ++ value := rfl
    rw [hsplit]
    exact redact_bearer h.1 fun c hc => Text.isBlank_of_printable (h.2 c hc)
  have hcheck : ∀ value, Printable value → Draft.checkHeaders
      (userRequest r { t with tokenValue := .text value }).headers = .ok () := by
    intro value h
    have hplain : ("Bearer " ++ value).toList.dropWhile (fun c => decide (c.toNat < 128)) = [] := by
      rw [List.dropWhile_eq_nil_iff, String.toList_append]
      intro c hc
      rcases List.mem_append.1 hc with hc | hc
      · have hscheme : ∀ c ∈ "Bearer ".toList, decide (c.toNat < 128) = true := by decide
        exact hscheme c hc
      · have hbounds := h.2 c hc
        simp
        omega
    have hforeign : Draft.foreignRun? ("Bearer " ++ value).toList = none := by
      unfold Draft.foreignRun?
      dsimp only
      rw [hplain]
    have haccept : Draft.checkHeaders [("accept", "application/json")] = .ok () := rfl
    show Draft.checkHeaders (("authorization", "Bearer " ++ value) :: _) = .ok ()
    unfold Draft.checkHeaders
    rw [hforeign]
    exact haccept
  refine ⟨rfl, rfl, ?_, ?_, rfl, rfl, rfl, rfl⟩
  · rw [hcheck value h, hcheck value' h']
  · show [("authorization", redact ("Bearer " ++ value)), _] =
      [("authorization", redact ("Bearer " ++ value')), _]
    rw [hredact value h, hredact value' h']

end HttpEngine

end LoginCallback
