import LoginCallback.Proofs.Action.Parallel
import LoginCallback.Proofs.Engine.Login
import LoginCallback.Proofs.Octets.Base64
import LoginCallback.Proofs.Octets.Form

/-!
# Where the credentials of a client go

The code is sent with the credentials of the client in the place that its registration names: in the
authorization header, in the form, or, of a client without a secret, the name alone in the form. The
form holds the values as they are, whatever characters they are made of. Nothing else that is sent
depends on the secret. Main statement: `credentials_placed`.

User information in the address of the token endpoint stands in the header of clients that do not
use it (`user_information_authorizes`).
-/

namespace LoginCallback

namespace Http

variable [Platform] {τ α : Type}

/-! ## What is noted of an action -/

/-- What the provider gets and answers during an action on a wire. -/
def noted (y : Action (Wire (τ × List Noted)) α) (w : Wire τ) : List Noted :=
  (y.runOn (w.watched [])).2.provider.2

/-- The cookies that are held after an answer from an address. -/
def jarAfter (now : Time.Moment) (jar : CookieJar) (a : Address) (answer : Except Fault Reply) :
    CookieJar :=
  match answer with
  | .ok reply =>
    jar.takeAll (secondOf now) a (reply.values "set-cookie") (reply.values "set-cookie2")
  | .error _ => jar

/-- The request that is made of a draft for an address, with the cookies held. -/
def Draft.requestAt (d : Draft) (now : Time.Moment) (jar : CookieJar) (a : Address) : Request :=
  d.toRequest a (jar.headerFor? (secondOf now) a)

/-- The requests that sending a draft makes: one, if it can be sent. -/
def requestsOf (now : Time.Moment) (d : Draft) (jar : CookieJar) : List Request :=
  match Draft.readAddress d.address, Draft.checkHeaders d.headers with
  | .ok a, .ok () => [d.requestAt now jar a]
  | _, _ => []

/-- A draft that can be sent is answered by the provider. -/
theorem send_fst (p : Provider τ) (now : Time.Moment) (w : Wire τ) {d : Draft} {a : Address}
    (ha : Draft.readAddress d.address = .ok a) (hh : Draft.checkHeaders d.headers = .ok ()) :
    ((send p now d).runOn w).1 =
      received a ((p (d.requestAt now w.opened.jar a)).runOn w.provider).1 := by
  unfold send
  rw [Action.runOn_ofFn, ha, hh]
  exact transmit_fst p now w.opened _ _

section

variable (p : Provider τ) (now : Time.Moment) (w : Wire (τ × List Noted))

/-- A draft that can be sent is sent once. -/
theorem runOn_send_watched {d : Draft} {a : Address} (ha : Draft.readAddress d.address = .ok a)
    (hh : Draft.checkHeaders d.headers = .ok ()) :
    ∃ answer w', (send p.watched now d).runOn w = (received a answer, w') ∧
      w'.provider.2 = w.provider.2 ++ [(d.requestAt now w.opened.jar a, answer)] ∧
      w'.opened.jar = jarAfter now w.opened.jar a answer := by
  let request := d.requestAt now w.opened.jar a
  let w₀ : Wire (τ × List Noted) := { w with client := some w.opened }
  have hrun : (send p.watched now d).runOn w = w.opened.transmit p.watched now request w₀ := by
    unfold send
    rw [Action.runOn_ofFn, ha, hh]
    rfl
  refine ⟨((p request).runOn w.provider.1).1, (w.opened.transmit p.watched now request w₀).2,
    ?_, ?_, ?_⟩
  · rw [hrun]
    exact Prod.ext (transmit_fst p.watched now w.opened request w₀) rfl
  · rw [provider_transmit]
    rfl
  · rw [jar_transmit]
    rfl

/-- A draft that cannot be sent leaves the provider and the cookies alone. -/
theorem runOn_send_unsendable {d : Draft} {e : Fault}
    (h : Draft.readAddress d.address = .error e ∨ Draft.checkHeaders d.headers = .error e) :
    ∃ e' w', (send p.watched now d).runOn w = (.error e', w') ∧ w'.provider = w.provider ∧
      requestsOf now d w.opened.jar = [] := by
  unfold send requestsOf
  rw [Action.runOn_ofFn]
  cases ha : Draft.readAddress d.address with
  | error e' => exact ⟨e', _, rfl, rfl, rfl⟩
  | ok a =>
    cases hh : Draft.checkHeaders d.headers with
    | error e' => exact ⟨e', _, rfl, rfl, rfl⟩
    | ok _ =>
      rw [ha, hh] at h
      rcases h with h | h <;> cases h

/-- What is noted of sending a draft. -/
theorem notes_send (d : Draft) :
    ∃ new, ((send p.watched now d).runOn w).2.provider.2 = w.provider.2 ++ new ∧
      new.map Prod.fst = requestsOf now d w.opened.jar := by
  cases ha : Draft.readAddress d.address with
  | error e =>
    obtain ⟨_, _, hrun, hprovider, hrequests⟩ := runOn_send_unsendable p now w (Or.inl ha)
    rw [hrun, hprovider, hrequests]
    exact ⟨[], (List.append_nil _).symm, rfl⟩
  | ok a =>
    cases hh : Draft.checkHeaders d.headers with
    | error e =>
      obtain ⟨_, _, hrun, hprovider, hrequests⟩ := runOn_send_unsendable p now w (Or.inr hh)
      rw [hrun, hprovider, hrequests]
      exact ⟨[], (List.append_nil _).symm, rfl⟩
    | ok _ =>
      obtain ⟨answer, w', hrun, hnotes, -⟩ := runOn_send_watched p now w ha hh
      rw [hrun, requestsOf, ha, hh]
      exact ⟨_, hnotes, rfl⟩

end

end Http

/-- The client of a registration is called by a name, and may have a secret. -/
structure Registration.Identified (r : Registration) (name : String) (secret : Option String) :
    Prop where
  clientId : r.clientId = .text name
  clientSecret : r.clientSecret = secret.elim .null .text

/-- The registration, with a secret in place of its own. -/
def Registration.withSecret (r : Registration) (secret : Value) : Registration :=
  { r with clientSecret := secret }

/-- The login, with a secret of the client in place of its own. -/
def LoginToken.withSecret (t : LoginToken) (secret : Value) : LoginToken :=
  { t with registration := t.registration.withSecret secret }

namespace HttpEngine

open LoginCallback.Http

variable {τ : Type}

/-! ## The request that sends the code -/

/-- The fields that tell the client apart, by the way in which it proves itself. -/
def clientFields (method : ClientAuthentication) (name : String) (secret : Option String) :
    List (String × String) :=
  match method with
  | .secretBasic => []
  | .secretPost =>
    ("client_id", name) :: if secret.getD "" = "" then [] else [("client_secret", secret.getD "")]
  | .none => [("client_id", name)]

/-- The values of the authorization headers of a request. -/
def authorizationsOf (request : Request) : List String :=
  (request.headers.filter fun h => h.1 == "authorization").map (·.2)

/-- The value of an authorization header holds a name and a secret: behind the scheme stands, in
base 64, the UTF-8 form of both with a colon between them. -/
def Proves (header name secret : String) : Prop :=
  ∃ encoded : List Char, header = "Basic " ++ String.ofList encoded ∧
    Octets.ofBase64? encoded = some (Octets.ofText (name ++ ":" ++ secret))

theorem proves_basic (name secret : String) : Proves (Draft.basic name secret) name secret :=
  ⟨_, rfl, Octets.ofBase64?_toBase64 fun _ => Octets.lt_of_mem_ofText⟩

/-- The header of a token request to an address proves the client only if it uses the header; of
other clients it holds the user information of the address, if there is any. -/
inductive Authorizes (method : ClientAuthentication) (name : String) (secret : Option String)
    (a : Address) : List String → Prop where
  | client {header : String} (hm : method = .secretBasic) (h : Proves header name (secret.getD "")) :
      Authorizes method name secret a [header]
  | address {header user password : String} (hm : method ≠ .secretBasic)
      (ha : a.credentials? = some (user, password)) (h : Proves header user password) :
      Authorizes method name secret a [header]
  | nothing (hm : method ≠ .secretBasic) (ha : a.credentials? = none) :
      Authorizes method name secret a []

/-- The request sends a code to an address, with the credentials of a client in their place. -/
structure Carries (r : Registration) (name : String) (secret : Option String)
    (code redirectUri : String) (a : Address) (cookie : Option String) (request : Request) : Prop where
  method : request.method = "POST"
  address : request.address = a
  fields : Site.Visit.fields request.body =
    [("grant_type", "authorization_code"), ("code", code), ("redirect_uri", redirectUri)] ++
      clientFields r.authentication name secret
  authorization : Authorizes r.authentication name secret a (authorizationsOf request)
  /-- The other headers hold nothing of the client but its cookies. -/
  headers : request.headers.filter (fun h => h.1 != "authorization") =
    ("accept", "application/json") :: (cookie.map fun c => ("cookie", c)).toList ++
      [("content-type", "application/x-www-form-urlencoded")]

section

variable {r : Registration} {name : String} {secret : Option String}

theorem tokenFields_of_identified (h : r.Identified name secret) (code redirectUri : String) :
    tokenFields r code (.text redirectUri) =
      [("grant_type", "authorization_code"), ("code", code), ("redirect_uri", redirectUri)] ++
        clientFields r.authentication name secret := by
  have htext : ∀ field value, formFields field (.text value) = [(field, value)] := fun _ _ => rfl
  unfold tokenFields clientFields
  rw [htext, h.clientId, h.clientSecret]
  cases r.authentication with
  | secretBasic => rfl
  | none => rfl
  | secretPost =>
    cases secret with
    | none => rfl
    | some s =>
      by_cases hs : s = ""
      · subst hs
        rfl
      · have hgiven : (Value.text s).truthy = true := Value.truthy_text hs
        simp [htext, hgiven, hs]

theorem credentials?_of_identified (h : r.Identified name secret) :
    credentials? r = .ok (if r.authentication = .secretBasic
      then some (Draft.basic name (secret.getD "")) else none) := by
  have hsecret : credential 1 (if r.clientSecret.truthy then r.clientSecret else .text "") =
      .ok (secret.getD "") := by
    rw [h.clientSecret]
    cases secret with
    | none => rfl
    | some s =>
      by_cases hs : s = ""
      · subst hs
        rfl
      · have hgiven : (Value.text s).truthy = true := Value.truthy_text hs
        simp [hgiven, credential]
  unfold credentials?
  cases r.authentication with
  | secretPost => rfl
  | none => rfl
  | secretBasic =>
    dsimp only
    rw [hsecret, h.clientId]
    rfl

/-- A client that does not prove itself sends the same whatever its secret is. -/
theorem tokenRequest_withSecret (secret secret' : Value) {r : Registration}
    (h : r.authentication = .none) (code : String) (redirectUri : Value) :
    tokenRequest (r.withSecret secret) code redirectUri =
      tokenRequest (r.withSecret secret') code redirectUri := by
  simp only [tokenRequest, credentials?, tokenFields, Registration.withSecret, h]

theorem tokenRequest_of_identified (h : r.Identified name secret) (code : String)
    (redirectUri : Value) : ∃ d, tokenRequest r code redirectUri = .ok d :=
  ⟨_, bind_eq_ok.2 ⟨_, credentials?_of_identified h, rfl⟩⟩

/-- A header that is missing is added at the end. -/
theorem insert_of_absent {hs : Headers} {header : String} (value : String)
    (h : ∀ x ∈ hs, x.1 ≠ header) : hs.insert header value = hs ++ [(header, value)] := by
  induction hs with
  | nil => rfl
  | cons x hs ih =>
    rw [List.forall_mem_cons] at h
    obtain ⟨n, v⟩ := x
    rw [Headers.insert, if_neg (by simpa using h.1), ih h.2, List.cons_append]

/-- Headers without an authorization take one at most, and stay as they are. -/
theorem filter_authorization {hs : Headers} (h : ∀ x ∈ hs, x.1 ≠ "authorization")
    (value? : Option String) :
    let added := value?.elim hs (hs.insert "authorization")
    (added.filter fun x => x.1 == "authorization").map (·.2) = value?.toList ∧
      added.filter (fun x => x.1 != "authorization") = hs := by
  have hnone : hs.filter (fun x => x.1 == "authorization") = [] :=
    List.filter_eq_nil_iff.2 fun x hx => by simpa using h x hx
  have hall : hs.filter (fun x => x.1 != "authorization") = hs :=
    List.filter_eq_self.2 fun x hx => by simpa using h x hx
  cases value? with
  | none => exact ⟨congrArg (List.map (·.2)) hnone, hall⟩
  | some value =>
    show ((hs.insert "authorization" value).filter _).map _ = _ ∧
      (hs.insert "authorization" value).filter _ = _
    rw [insert_of_absent value h, List.filter_append, List.filter_append, hnone, hall]
    exact ⟨rfl, List.append_nil hs⟩

theorem carries_request (h : r.Identified name secret) (code redirectUri : String)
    (now : Time.Moment) (jar : CookieJar) (a : Address) :
    ∃ d, tokenRequest r code (.text redirectUri) = .ok d ∧ d.address = r.tokenUri ∧
      Draft.checkHeaders d.headers = .ok () ∧
      Carries r name secret code redirectUri a (jar.headerFor? (secondOf now) a)
        (d.requestAt now jar a) := by
  let own := if r.authentication = .secretBasic then some (Draft.basic name (secret.getD "")) else none
  let used := own <|> a.credentials?.map fun x => Draft.basic x.1 x.2
  have hplain : ∀ x ∈ ("accept", "application/json") ::
      ((jar.headerFor? (secondOf now) a).map fun c => ("cookie", c)).toList ++
        [("content-type", "application/x-www-form-urlencoded")], x.1 ≠ "authorization" := by
    cases jar.headerFor? (secondOf now) a <;> simp
  obtain ⟨hauthorization, hheaders⟩ := filter_authorization hplain used
  refine ⟨_, bind_eq_ok.2 ⟨own, credentials?_of_identified h, rfl⟩, rfl, rfl, rfl, rfl, ?_, ?_, ?_⟩
  · show Site.Visit.fields (Octets.encodeForm (tokenFields r code (.text redirectUri))) = _
    rw [Site.Visit.fields_encodeForm, tokenFields_of_identified h]
  · unfold authorizationsOf Draft.requestAt
    rw [Draft.headers_toRequest]
    refine Eq.mpr (congrArg _ hauthorization) ?_
    by_cases hm : r.authentication = .secretBasic
    · have hused : used = some (Draft.basic name (secret.getD "")) := by simp [used, own, hm]
      rw [hused]
      exact .client hm (proves_basic name _)
    · have hused : used = a.credentials?.map fun x => Draft.basic x.1 x.2 := by simp [used, own, hm]
      rw [hused]
      cases ha : a.credentials? with
      | none => exact .nothing hm ha
      | some x => exact .address hm ha (proves_basic x.1 x.2)
  · unfold Draft.requestAt
    rw [Draft.headers_toRequest]
    exact hheaders

end

section

variable [Platform]

/-! ## The exchange of the code -/

section

variable (p : Provider τ) (now : Time.Moment) (r : Registration) (code : String)
  (redirectUri : Value) (requested : List Value) (w : Wire (τ × List Noted))

/-- The code is sent in one request, and the result and the cookies held afterwards follow from the
answer. -/
theorem runOn_exchangeCode {d : Draft} {a : Address} (hd : tokenRequest r code redirectUri = .ok d)
    (ha : Draft.readAddress r.tokenUri = .ok a) :
    ∃ answer w', (exchangeCode p.watched now r code redirectUri requested).runOn w =
        (answered tokenFault (TokenReply.read now requested) (received a answer), w') ∧
      w'.provider.2 = w.provider.2 ++ [(d.requestAt now w.opened.jar a, answer)] ∧
      w'.opened.jar = jarAfter now w.opened.jar a answer := by
  obtain ⟨-, haddress, hheaders, -⟩ := tokenRequest_eq_ok hd
  rw [← haddress] at ha
  have hh : Draft.checkHeaders d.headers = .ok () := by
    rw [hheaders]
    rfl
  obtain ⟨answer, w', hsend, hnotes, hjar⟩ := runOn_send_watched p now w ha hh
  refine ⟨answer, w', ?_, hnotes, hjar⟩
  unfold exchangeCode
  rw [hd, Action.runOn_bind, Action.runOn_lift]
  dsimp only
  rw [Action.runOn_bind, Action.runOn_outcome, hsend]
  cases received a answer <;> rfl

/-- Without a request there is no token. -/
theorem runOn_exchangeCode_unsendable
    (h : ∀ d a, tokenRequest r code redirectUri = .ok d → Draft.readAddress r.tokenUri ≠ .ok a) :
    ∃ e w', (exchangeCode p.watched now r code redirectUri requested).runOn w = (.error e, w') ∧
      w'.provider = w.provider := by
  unfold exchangeCode
  rw [Action.runOn_bind, Action.runOn_lift]
  cases hd : tokenRequest r code redirectUri with
  | error e => exact ⟨e, w, rfl, rfl⟩
  | ok d =>
    dsimp only
    cases ha : Draft.readAddress d.address with
    | ok a =>
      rw [(tokenRequest_eq_ok hd).2.1] at ha
      exact absurd ha (h d a hd)
    | error e =>
      obtain ⟨e', w', hsend, hprovider, -⟩ := runOn_send_unsendable p now w (Or.inl ha)
      rw [Action.runOn_bind, Action.runOn_outcome, hsend]
      exact ⟨_, w', rfl, hprovider⟩

/-- The requests that look up a user. -/
def userRequestsOf (r : Registration) (token : AccessToken) (jar : CookieJar) : List Request :=
  if r.userInfoUri.truthy then requestsOf now (userRequest r token) jar else []

/-- What is noted of a look-up. -/
theorem notes_loadUser (token : AccessToken) :
    ∃ new, ((loadUser p.watched now r token).runOn w).2.provider.2 = w.provider.2 ++ new ∧
      new.map Prod.fst = userRequestsOf now r token w.opened.jar := by
  unfold loadUser userRequestsOf
  cases hu : r.userInfoUri.truthy with
  | false => exact ⟨[], (List.append_nil _).symm, rfl⟩
  | true =>
    obtain ⟨new, hnotes, hrequests⟩ := notes_send p now w (userRequest r token)
    refine ⟨new, ?_, hrequests⟩
    rw [← hnotes]
    simp only [Bool.not_true, Bool.false_eq_true, if_false]
    rw [Action.runOn_bind, Action.runOn_outcome]
    dsimp only
    cases ((send p.watched now (userRequest r token)).runOn w).1 <;> rfl

end

/-! ## Two logins -/

/-- The requests of a login after an answer to the code. -/
def followUp (now : Time.Moment) (t : LoginToken) (jar : CookieJar) (a : Address)
    (answer : Except Fault Reply) : List Request :=
  match answered tokenFault (TokenReply.read now t.request.scopes) (received a answer) with
  | .ok token => userRequestsOf now t.registration token (jarAfter now jar a answer)
  | .error _ => []

/-- A login asks nothing, or it sends the code and goes on with the answer. -/
inductive Converses (now : Time.Moment) (t : LoginToken) (jar : CookieJar) : List Noted → Prop where
  | silent : Converses now t jar []
  | asks {a : Address} {post : Request} {answer : Except Fault Reply} {rest : List Noted}
      (ha : Draft.readAddress t.registration.tokenUri = .ok a)
      (hrest : rest.map Prod.fst = followUp now t jar a answer) :
      Converses now t jar ((post, answer) :: rest)

/-- The part of a login that talks with the provider. -/
theorem converses_redeemed (p : Provider τ) (now : Time.Moment) (t : LoginToken)
    {w : Wire (τ × List Noted)} (hw : w.provider.2 = []) :
    Converses now t w.opened.jar ((do
      let accessToken ← exchangeCode p.watched now t.registration (t.response.code.getD "")
        t.request.redirectUri t.request.scopes
      let user ← loadUser p.watched now t.registration accessToken
      return t.authenticate user (some accessToken) (some (authoritiesOf accessToken.scopes))
      : Action (Wire (τ × List Noted)) LoginToken).runOn w).2.provider.2 := by
  rw [Action.runOn_bind]
  by_cases hpost : ∃ d a, tokenRequest t.registration (t.response.code.getD "")
      t.request.redirectUri = .ok d ∧ Draft.readAddress t.registration.tokenUri = .ok a
  · obtain ⟨d, a, hd, ha⟩ := hpost
    obtain ⟨answer, w', hrun, hnotes, hjar⟩ :=
      runOn_exchangeCode p now t.registration _ _ t.request.scopes w hd ha
    rw [hw, List.nil_append] at hnotes
    rw [hrun]
    cases hread : answered tokenFault (TokenReply.read now t.request.scopes) (received a answer) with
    | error e =>
      dsimp only
      rw [hnotes]
      exact .asks ha (by simp [followUp, hread])
    | ok token =>
      obtain ⟨new, hnew, hrequests⟩ := notes_loadUser p now t.registration w' token
      have hreturn : ∀ x : Action (Wire (τ × List Noted)) User, ((do
          let user ← x
          return t.authenticate user (some token) (some (authoritiesOf token.scopes))
          : Action (Wire (τ × List Noted)) LoginToken).runOn w').2 = (x.runOn w').2 := by
        intro x
        rw [Action.runOn_bind]
        cases (x.runOn w').1 <;> rfl
      dsimp only
      rw [hreturn, hnew, hnotes, List.singleton_append]
      refine .asks ha ?_
      rw [hrequests, hjar, followUp, hread]
  · obtain ⟨e, w', hrun, hprovider⟩ := runOn_exchangeCode_unsendable p now t.registration
      (t.response.code.getD "") t.request.redirectUri t.request.scopes w
      fun d a hd ha => hpost ⟨d, a, hd, ha⟩
    rw [hrun]
    dsimp only
    rw [hprovider, hw]
    exact .silent

theorem converses_authenticate (p : Provider τ) (now : Time.Moment) (t : LoginToken)
    (w : Wire τ) : Converses now t w.opened.jar (exchangesOf p now t w) := by
  unfold exchangesOf authenticate
  split
  · exact .silent
  · let note : Record := ⟨.debug, .engine,
      "Exchanging authorization code for registration " ++ t.registration.id.display⟩
    let w' : Wire (τ × List Noted) :=
      { w.watched [] with journal := (w.watched []).journal.add note }
    rw [Action.runOn_bind, Action.runOn_change]
    exact converses_redeemed p now t (w := w') rfl

/-- The answers to the code tell what is asked after it. -/
theorem Converses.tail_eq {now : Time.Moment} {t t' : LoginToken} {jar : CookieJar}
    {exchanges others : List Noted} (h : Converses now t jar exchanges)
    (h' : Converses now t' jar others)
    (huri : t.registration.tokenUri = t'.registration.tokenUri)
    (hfollow : ∀ a answer, followUp now t jar a answer = followUp now t' jar a answer)
    (hanswer : exchanges.head?.map (·.2) = others.head?.map (·.2)) :
    exchanges.tail.map Prod.fst = others.tail.map Prod.fst := by
  cases h with
  | silent =>
    cases h' with
    | silent => rfl
    | asks _ _ => cases hanswer
  | asks ha hrest =>
    cases h' with
    | silent => cases hanswer
    | asks ha' hrest' =>
      obtain rfl := Except.ok.inj (ha.symm.trans ((congrArg Draft.readAddress huri).trans ha'))
      obtain rfl := Option.some.inj hanswer
      exact hrest.trans ((hfollow _ _).trans hrest'.symm)

section

variable (p : Provider τ) (now : Time.Moment) (t : LoginToken) (secret secret' : Value)

theorem exchangesOf_withSecret (h : t.registration.authentication = .none) (w : Wire τ) :
    exchangesOf p now (t.withSecret secret) w = exchangesOf p now (t.withSecret secret') w := by
  have hparallel : Action.Parallel Eq (fun _ _ => True)
      (authenticate p.watched now (t.withSecret secret))
      (authenticate p.watched now (t.withSecret secret')) := by
    have hexchange : ∀ code redirectUri requested,
        exchangeCode p.watched now (t.withSecret secret).registration code redirectUri requested =
          exchangeCode p.watched now (t.withSecret secret').registration code redirectUri
            requested := by
      intro code redirectUri requested
      unfold exchangeCode
      exact congrArg (fun request => liftM request >>= _) (tokenRequest_withSecret _ _ h _ _)
    have hsame : (t.withSecret secret).registration.id = (t.withSecret secret').registration.id := rfl
    unfold authenticate
    rw [hexchange, hsame]
    show Action.Parallel Eq _ (if !t.request.redirectUri.same (.text t.response.redirectUri) then _
      else _) (if !t.request.redirectUri.same (.text t.response.redirectUri) then _ else _)
    split
    · exact Action.parallel_lift (.error _)
    · refine (Action.parallel_refl _).bind fun _ _ _ => ?_
      refine (Action.parallel_refl _).bind ?_
      rintro token _ rfl
      refine (Action.parallel_refl (loadUser p.watched now t.registration token)).bind fun _ _ _ => ?_
      exact Action.parallel_pure trivial
  exact congrArg (·.provider.2) (hparallel _ _ rfl).2

end

/-- Where the credentials of a client go. The code is sent once, with the credentials of the client
in the place that the registration names and the values as they are. With one secret and with
another, a client that does not prove itself asks the same, and every client asks the same once the
code has been answered in the same way. -/
theorem credentials_placed (p : Provider τ) (now : Time.Moment) (t : LoginToken) (w : Wire τ)
    {name : String} {secret : Option String} {a : Address}
    (h : t.registration.Identified name secret)
    (ha : Draft.readAddress t.registration.tokenUri = .ok a) :
    (∀ (code redirectUri : String) (requested : List Value), ∃ post answer,
      noted (exchangeCode p.watched now t.registration code (.text redirectUri) requested) w =
          [(post, answer)] ∧
        Carries t.registration name secret code redirectUri a
          (w.opened.jar.headerFor? (secondOf now) a) post) ∧
    ∀ one another : Value,
      let exchanges := exchangesOf p now (t.withSecret one) w
      let others := exchangesOf p now (t.withSecret another) w
      (t.registration.authentication = .none → exchanges = others) ∧
      (exchanges.head?.map (·.2) = others.head?.map (·.2) →
        exchanges.tail.map Prod.fst = others.tail.map Prod.fst) := by
  refine ⟨fun code redirectUri requested => ?_, fun one another => ⟨?_, ?_⟩⟩
  · obtain ⟨d, hd, -, -, hcarries⟩ :=
      carries_request h code redirectUri now w.opened.jar a
    obtain ⟨answer, w', hrun, hnotes, -⟩ := runOn_exchangeCode p now t.registration code
      (.text redirectUri) requested (w.watched []) hd ha
    refine ⟨_, answer, ?_, hcarries⟩
    unfold noted
    rw [hrun, hnotes]
    rfl
  · exact fun hm => exchangesOf_withSecret p now t one another hm w
  · exact (converses_authenticate p now _ w).tail_eq (converses_authenticate p now _ w) rfl
      fun _ _ => rfl

end

/-- A client that sends its secret in the form, with a code and a secret that look like parts of a
form. -/
theorem credentials_placed_in_form :
    let provider := answering "\x7b\"access_token\": \"T\"\x7d" "\x7b\"sub\": \"U\"\x7d"
    let now : Time.Moment := ⟨63839664000000000, some 0⟩
    let t := loginThrough { Registration.ofId "acme" with
      authentication := .secretPost, clientId := .text "a&b=c", clientSecret := .text "s+1%é" }
    ∃ post answer, noted (exchangeCode provider.watched now t.registration "C&code=D"
        (.text "http://localhost/?a=b c") []) { provider := () } = [(post, answer)] ∧
      Site.Visit.fields post.body = [("grant_type", "authorization_code"), ("code", "C&code=D"),
        ("redirect_uri", "http://localhost/?a=b c"), ("client_id", "a&b=c"),
        ("client_secret", "s+1%é")] ∧
      authorizationsOf post = [] := by
  intro provider now t
  have hread : (Draft.readAddress t.registration.tokenUri).toOption.map (·.credentials?) =
      some none := by decide +kernel
  obtain ⟨a, ha, hnone⟩ := Option.map_eq_some_iff.1 hread
  have hidentified : t.registration.Identified "a&b=c" (some "s+1%é") := ⟨rfl, rfl⟩
  obtain ⟨hcarries, -⟩ := credentials_placed provider now t { provider := () } hidentified
    (toOption_eq_some.1 ha)
  obtain ⟨post, answer, hnoted, hpost⟩ := hcarries "C&code=D" "http://localhost/?a=b c" []
  refine ⟨post, answer, hnoted, hpost.fields, ?_⟩
  have hauthorizes := hpost.authorization
  cases hlist : authorizationsOf post with
  | nil => rfl
  | cons header headers =>
    rw [hlist] at hauthorizes
    cases hauthorizes with
    | client hm _ => cases hm
    | address _ hgiven _ =>
      rw [hnone] at hgiven
      cases hgiven

/-- A client that sends its secret in the form and no other proof of itself, but for the user
information of the token endpoint. -/
theorem user_information_authorizes :
    let provider := answering "\x7b\"access_token\": \"T\"\x7d" "\x7b\"sub\": \"U\"\x7d"
    let now : Time.Moment := ⟨63839664000000000, some 0⟩
    let t := loginThrough { Registration.ofId "acme" with
      authentication := .secretPost, clientSecret := .text "s"
      tokenUri := .text "https://u:p@id.example.com/token" }
    t.registration.Identified "client" (some "s") ∧
      (noted (exchangeCode provider.watched now t.registration "C"
        (.text "http://localhost/login/oauth2/code/acme") []) { provider := () }).map
          (fun n => (n.1.method, authorizationsOf n.1)) = [("POST", ["Basic dTpw"])] := by
  intro provider now t
  exact ⟨⟨rfl, rfl⟩, by decide +kernel⟩

end HttpEngine

end LoginCallback
