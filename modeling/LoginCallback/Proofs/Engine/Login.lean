import LoginCallback.Proofs.Engine.Conversation
import LoginCallback.Proofs.Engine.Replies
import LoginCallback.Proofs.Session.Run

/-!
# The requests of a login

With a registration whose endpoints are addresses (`Usable`), a login asks the provider at most
twice: it sends the code to the token endpoint, once, and with the token that was issued it asks the
user-info endpoint for the user. Main statement: `authenticate_exchanges`, what is sent, and which
answers make a login.

User information in the address of the user-info endpoint takes the place of the token
(`bearer_replaced`).
-/

namespace LoginCallback

namespace Http

variable {τ : Type}

/-- Headers fault only with a character beyond ASCII. -/
theorem checkHeaders_eq_error {hs : Headers} {e : Fault} (h : Draft.checkHeaders hs = .error e) :
    ∃ position count first, e = .nonAscii position count first := by
  induction hs with
  | nil => cases h
  | cons header hs ih =>
    unfold Draft.checkHeaders at h
    split at h
    · exact ⟨_, _, _, (Except.error.inj h).symm⟩
    · exact ih h

theorem answered_eq_ok {α : Type} {onFault : Fault → Fault} {onReply : Reply → Except Fault α}
    {outcome : Except Fault Reply} {x : α} :
    answered onFault onReply outcome = .ok x ↔
      ∃ reply, outcome = .ok reply ∧ onReply reply = .ok x := by
  cases outcome with
  | error e => simp [answered]
  | ok reply => simp [answered]

variable [Platform]

/-- The value writes an absolute address of the web. -/
structure Endpoint (v : Value) (a : Address) : Prop where
  written : ∃ s, v = .text s ∧ Address.parse s = .ok a
  scheme : a.scheme = "http" ∨ a.scheme = "https"
  host : a.host ≠ ""

theorem Endpoint.readAddress {v : Value} {a : Address} (h : Endpoint v a) :
    Draft.readAddress v = .ok a := by
  obtain ⟨s, rfl, hparse⟩ := h.written
  have hscheme : a.scheme ≠ "" := by
    rcases h.scheme with hs | hs <;> simp [hs]
  have htarget : a.target = a := by
    simp [Address.target, Address.isAbsolute, hscheme, h.host]
  simp only [Draft.readAddress, hparse, htarget]

/-- A draft for an endpoint is sent, unless its headers cannot be written. -/
theorem Sends.at_endpoint {p : Provider τ} {d : Draft} {a : Address} {new : List Noted}
    {outcome : Except Fault Reply} (ha : Endpoint d.address a) (h : Sends p d new outcome) :
    (new = [] ∧ ∃ e, Draft.checkHeaders d.headers = .error e ∧ outcome = .error e) ∨
    ∃ cookie answer, new = [(d.toRequest a cookie, answer)] ∧
      Draft.checkHeaders d.headers = .ok () ∧ p.Answers (d.toRequest a cookie) answer ∧
      outcome = received a answer := by
  have haddress := ha.readAddress
  cases h with
  | noAddress he =>
    rw [haddress] at he
    cases he
  | noHeaders hh => exact Or.inl ⟨rfl, _, hh, rfl⟩
  | exchanged cookie ha' hh hp =>
    rw [haddress] at ha'
    obtain rfl := Except.ok.inj ha'
    exact Or.inr ⟨cookie, _, rfl, hh, hp, rfl⟩

/-- A reply with status 200 sends the client nowhere. -/
theorem received_of_status {reply : Reply} (h : reply.status = 200) (a : Address) :
    received a (.ok reply) = .ok reply := by
  have hredirect : reply.isRedirect = false := by
    simp [Reply.isRedirect, h]
  refine received_eq_ok.2 ⟨rfl, ?_⟩
  unfold Reply.checkLocation
  rw [hredirect]
  rfl

end Http

namespace HttpEngine

open LoginCallback.Http

variable {τ : Type}

/-- The request sends a code to the token endpoint. -/
structure Posts (r : Registration) (code : String) (redirectUri : Value) (a : Address)
    (request : Request) : Prop where
  method : request.method = "POST"
  address : request.address = a
  body : request.body = tokenForm r code redirectUri

/-- The value of the authorization header of a request for the user of an access token at an
address. -/
def authorizationAt (b : Address) (token : AccessToken) : String :=
  match b.credentials? with
  | some (name, secret) => Draft.basic name secret
  | none => "Bearer " ++ token.tokenValue.display

/-- The request asks for the user of an access token. -/
structure Asks (token : AccessToken) (b : Address) (request : Request) : Prop where
  method : request.method = "GET"
  address : request.address = b
  body : request.body = ""
  authorization : request.headers.lookup "authorization" = some (authorizationAt b token)

theorem lookup_insert_self (hs : Headers) (name value : String) :
    (hs.insert name value).lookup name = some value := by
  induction hs with
  | nil => simp [Headers.insert]
  | cons h hs ih =>
    obtain ⟨n, v⟩ := h
    by_cases hn : n = name
    · simp [Headers.insert, hn]
    · have hn' : (name == n) = false := by simpa using Ne.symm hn
      rw [Headers.insert, if_neg (by simpa using hn), List.lookup_cons, hn']
      exact ih

theorem asks_userRequest (r : Registration) (token : AccessToken) (b : Address)
    (cookie : Option String) : Asks token b ((userRequest r token).toRequest b cookie) := by
  refine ⟨rfl, rfl, rfl, ?_⟩
  unfold authorizationAt
  cases hb : b.credentials? with
  | none =>
    simp only [Draft.toRequest, userRequest, hb]
    rfl
  | some credentials =>
    simp only [Draft.toRequest, userRequest, hb]
    exact lookup_insert_self _ _ _

section

variable [Platform]

/-- The engine can work with the registration: its endpoints are addresses, and what it compares and
proves itself with are texts. The endpoint of the user may be missing. -/
structure Usable (r : Registration) (a b : Address) : Prop where
  tokenUri : Endpoint r.tokenUri a
  userInfoUri : r.userInfoUri.truthy = true → Endpoint r.userInfoUri b
  clientId : ∃ name, r.clientId = .text name
  clientSecret : r.clientSecret = .null ∨ ∃ secret, r.clientSecret = .text secret
  userNameAttribute : ∃ key, r.userNameAttribute = .text key

/-! ## The two steps -/

variable {p : Provider τ} {now : Time.Moment} {r : Registration} {a b : Address}

theorem tokenRequest_of_usable (h : Usable r a b) (code : String) (redirectUri : Value) :
    ∃ d, tokenRequest r code redirectUri = .ok d := by
  obtain ⟨name, hname⟩ := h.clientId
  have hsecret : ∃ secret,
      credential 1 (if r.clientSecret.truthy then r.clientSecret else .text "") = .ok secret := by
    rcases h.clientSecret with hs | ⟨secret, hs⟩
    · exact ⟨"", by simp [hs, Value.truthy, credential]⟩
    · by_cases ht : (Value.text secret).truthy = true
      · exact ⟨secret, by simp [hs, ht, credential]⟩
      · exact ⟨"", by simp [hs, ht, credential]⟩
  obtain ⟨secret, hsecret⟩ := hsecret
  have hcredentials : ∃ c, credentials? r = .ok c := by
    unfold credentials?
    cases r.authentication with
    | secretBasic =>
      refine ⟨_, bind_eq_ok.2 ⟨name, by rw [hname]; rfl, bind_eq_ok.2 ⟨secret, hsecret, rfl⟩⟩⟩
    | secretPost => exact ⟨none, rfl⟩
    | none => exact ⟨none, rfl⟩
  obtain ⟨c, hc⟩ := hcredentials
  exact ⟨_, bind_eq_ok.2 ⟨c, hc, rfl⟩⟩

/-- The exchange of the code is one request. -/
theorem Redeems.posts {code : String} {redirectUri : Value} {requested : List Value}
    {new : List Noted} {result : Except Fault AccessToken} (hr : Usable r a b)
    (h : Redeems p now r code redirectUri requested new result) :
    ∃ post answer, new = [(post, answer)] ∧ Posts r code redirectUri a post ∧
      p.Answers post answer ∧
      result = answered tokenFault (TokenReply.read now requested) (received a answer) := by
  cases h with
  | unprepared hd =>
    obtain ⟨d, hok⟩ := tokenRequest_of_usable hr code redirectUri
    rw [hok] at hd
    cases hd
  | sent hd hs =>
    obtain ⟨hmethod, haddress, hheaders, hbody⟩ := tokenRequest_eq_ok hd
    have hendpoint := hr.tokenUri
    rw [← haddress] at hendpoint
    rcases hs.at_endpoint hendpoint with ⟨-, e, hh, -⟩ | ⟨cookie, answer, rfl, -, hp, rfl⟩
    · rw [hheaders] at hh
      have hascii : Draft.checkHeaders [("accept", "application/json")] = .ok () := rfl
      rw [hascii] at hh
      cases hh
    · exact ⟨_, answer, rfl, ⟨hmethod, rfl, hbody⟩, hp, rfl⟩

/-- The user is looked up with one request, if at all. -/
theorem Loads.asks {token : AccessToken} {new : List Noted} {result : Except Fault User}
    (hr : Usable r a b) (h : Loads p r token new result) :
    (new = [] ∧ ∃ e, result = .error e ∧ (r.userInfoUri.truthy = false ∧ e.IsEngineFailure ∨
      r.userInfoUri.truthy = true ∧ Draft.checkHeaders (userRequest r token).headers = .error e)) ∨
    ∃ get answer, new = [(get, answer)] ∧ r.userInfoUri.truthy = true ∧ Asks token b get ∧
      p.Answers get answer ∧ result = answered userFault (readUser r) (received b answer) := by
  cases h with
  | noEndpoint hu => exact Or.inl ⟨rfl, _, rfl, Or.inl ⟨hu, _, _, rfl⟩⟩
  | sent hu hs =>
    rcases hs.at_endpoint (hr.userInfoUri hu) with
      ⟨rfl, e, hh, rfl⟩ | ⟨cookie, answer, rfl, -, hp, rfl⟩
    · obtain ⟨position, count, first, rfl⟩ := checkHeaders_eq_error hh
      exact Or.inl ⟨rfl, _, rfl, Or.inr ⟨hu, hh⟩⟩
    · exact Or.inr ⟨_, answer, rfl, hu, asks_userRequest r token b cookie, hp, rfl⟩

theorem Redeems.issues {code : String} {redirectUri : Value} {requested : List Value}
    {new : List Noted} {token : AccessToken} (hr : Usable r a b)
    (h : Redeems p now r code redirectUri requested new (.ok token)) :
    ∃ post reply, new = [(post, .ok reply)] ∧ Posts r code redirectUri a post ∧
      TokenReply.Issues now requested reply token := by
  obtain ⟨post, answer, rfl, hpost, -, hresult⟩ := h.posts hr
  obtain ⟨reply, hreceived, hread⟩ := answered_eq_ok.1 hresult.symm
  obtain ⟨rfl, -⟩ := received_eq_ok.1 hreceived
  exact ⟨post, reply, rfl, hpost, TokenReply.read_eq_ok.1 hread⟩

section

variable {t : LoginToken} {new : List Noted} {result : Except Fault LoginToken}

/-- The requests of a login: the first one sends the code, and a second one is sent only with a
token that was issued. -/
inductive Requests (now : Time.Moment) (t : LoginToken) (a b : Address) : List Noted → Prop where
  | code {post : Request} {answer : Except Fault Reply}
      (hpost : Posts t.registration (t.response.code.getD "") t.request.redirectUri a post) :
      Requests now t a b [(post, answer)]
  | user {post get : Request} {reply : Reply} {token : AccessToken} {answer : Except Fault Reply}
      (hpost : Posts t.registration (t.response.code.getD "") t.request.redirectUri a post)
      (hissues : TokenReply.Issues now t.request.scopes reply token)
      (hu : t.registration.userInfoUri.truthy = true) (hget : Asks token b get) :
      Requests now t a b [(post, .ok reply), (get, answer)]

theorem Redeems.requests {new' : List Noted} {token : AccessToken} {user : Except Fault User}
    (hr : Usable t.registration a b)
    (hx : Redeems p now t.registration (t.response.code.getD "") t.request.redirectUri
      t.request.scopes new (.ok token))
    (hl : Loads p t.registration token new' user) : Requests now t a b (new ++ new') := by
  obtain ⟨post, reply, rfl, hpost, hissues⟩ := hx.issues hr
  rcases hl.asks hr with ⟨rfl, -⟩ | ⟨get, answer, rfl, hu, hget, -⟩
  · exact .code hpost
  · exact .user hpost hissues hu hget

theorem Authenticates.requests (hr : Usable t.registration a b)
    (h : Authenticates p now t new result)
    (hsame : t.request.redirectUri = .text t.response.redirectUri) : Requests now t a b new := by
  cases h with
  | mismatch hne => exact absurd hsame hne
  | noToken _ hx =>
    obtain ⟨post, answer, rfl, hpost, -⟩ := hx.posts hr
    exact .code hpost
  | noUser _ hx hl => exact hx.requests hr hl
  | completed _ hx hl => exact hx.requests hr hl

end

end

/-! ## Concrete logins -/

/-- A reply with a JSON text. -/
def replyOf (text : String) : Reply := { status := 200, body := Octets.ofText text }

/-- A provider that always answers the exchange of a code with the first text, and the look-up of a
user with the second one. -/
def answering (token user : String) : Provider Unit := fun request =>
  pure (replyOf (if request.method = "POST" then token else user))

/-- A login with the code `C`. -/
def loginThrough (r : Registration) : LoginToken :=
  { registration := r
    request := { AuthorizationRequest.ofLogin "S1" "acme" with
      redirectUri := .text "http://localhost/login/oauth2/code/acme" }
    response := .ofQuery [("code", "C"), ("state", "S1")] "http://localhost/login/oauth2/code/acme" }

end HttpEngine

end LoginCallback
