import LoginCallback.Engine.HttpEngine
import LoginCallback.Proofs.Engine.Watched
import LoginCallback.Proofs.Value.Entries

/-!
# The conversation of the engine with a provider

What the engine asks a provider, what it is answered, and what it makes of the answers: a relation
for each of its steps, with a constructor for each way to end one (`Redeems`, `Loads`,
`Authenticates`). Main statement: `logs_authenticates`, every login is such a conversation.
-/

namespace LoginCallback.HttpEngine

open LoginCallback.Http

variable {τ : Type}

/-- The form in which the code is sent. -/
def tokenForm (r : Registration) (code : String) (redirectUri : Value) : String :=
  Octets.encodeForm (tokenFields r code redirectUri)

theorem tokenRequest_eq_ok {r : Registration} {code : String} {redirectUri : Value} {d : Draft}
    (h : tokenRequest r code redirectUri = .ok d) :
    d.method = "POST" ∧ d.address = r.tokenUri ∧ d.headers = [("accept", "application/json")] ∧
      d.body = tokenForm r code redirectUri := by
  obtain ⟨credentials, -, h⟩ := bind_eq_ok.1 h
  obtain rfl := Except.ok.inj h
  exact ⟨rfl, rfl, rfl, rfl⟩

variable [Platform]

/-- The exchange of a code: no request can be made for it, or the answer is read. -/
inductive Redeems (p : Provider τ) (now : Time.Moment) (r : Registration) (code : String)
    (redirectUri : Value) (requested : List Value) :
    List Noted → Except Fault AccessToken → Prop where
  | unprepared {e : Fault} (hd : tokenRequest r code redirectUri = .error e) :
      Redeems p now r code redirectUri requested [] (.error e)
  | sent {d : Draft} {new : List Noted} {outcome : Except Fault Reply}
      (hd : tokenRequest r code redirectUri = .ok d) (hs : Sends p d new outcome) :
      Redeems p now r code redirectUri requested new
        (answered tokenFault (TokenReply.read now requested) outcome)

/-- The look-up of the user whom an access token belongs to. -/
inductive Loads (p : Provider τ) (r : Registration) (token : AccessToken) :
    List Noted → Except Fault User → Prop where
  | noEndpoint (hu : r.userInfoUri.truthy = false) :
      Loads p r token [] (fail FailureCode.invalidUserInfoResponse
        ("No user-info endpoint configured for " ++ r.id.display))
  | sent {new : List Noted} {outcome : Except Fault Reply} (hu : r.userInfoUri.truthy = true)
      (hs : Sends p (userRequest r token) new outcome) :
      Loads p r token new (answered userFault (readUser r) outcome)

/-- The login token with a user and the access token. -/
def loggedIn (t : LoginToken) (token : AccessToken) (user : User) : LoginToken :=
  t.authenticate user (some token) (some (authoritiesOf token.scopes))

/-- A login: the code is exchanged only if the callback came to the address of the stored request,
and the user is looked up only with an access token. -/
inductive Authenticates (p : Provider τ) (now : Time.Moment) (t : LoginToken) :
    List Noted → Except Fault LoginToken → Prop where
  | mismatch (h : t.request.redirectUri ≠ .text t.response.redirectUri) :
      Authenticates p now t [] (fail FailureCode.invalidRedirectUri
        "Callback redirect URI does not match the authorization request")
  | noToken {new : List Noted} {e : Fault}
      (h : t.request.redirectUri = .text t.response.redirectUri)
      (hx : Redeems p now t.registration (t.response.code.getD "") t.request.redirectUri
        t.request.scopes new (.error e)) : Authenticates p now t new (.error e)
  | noUser {new new' : List Noted} {token : AccessToken} {e : Fault}
      (h : t.request.redirectUri = .text t.response.redirectUri)
      (hx : Redeems p now t.registration (t.response.code.getD "") t.request.redirectUri
        t.request.scopes new (.ok token))
      (hl : Loads p t.registration token new' (.error e)) :
      Authenticates p now t (new ++ new') (.error e)
  | completed {new new' : List Noted} {token : AccessToken} {user : User}
      (h : t.request.redirectUri = .text t.response.redirectUri)
      (hx : Redeems p now t.registration (t.response.code.getD "") t.request.redirectUri
        t.request.scopes new (.ok token))
      (hl : Loads p t.registration token new' (.ok user)) :
      Authenticates p now t (new ++ new') (.ok (loggedIn t token user))

theorem logs_redeems (p : Provider τ) (now : Time.Moment) (r : Registration) (code : String)
    (redirectUri : Value) (requested : List Value) :
    Logs (Redeems p now r code redirectUri requested)
      (exchangeCode p now r code redirectUri requested)
      (exchangeCode p.watched now r code redirectUri requested) := by
  have hdraft : Logs (τ := τ) (fun new (answer : Except Fault Draft) =>
      new = [] ∧ answer = tokenRequest r code redirectUri)
      (liftM (tokenRequest r code redirectUri)) (liftM (tokenRequest r code redirectUri)) :=
    logs_lift ⟨rfl, rfl⟩
  unfold exchangeCode
  refine hdraft.bind (R := fun d new answer => ∃ outcome, Sends p d new outcome ∧
    answer = answered tokenFault (TokenReply.read now requested) outcome) (fun d => ?_) ?_ ?_
  · exact logs_answered p now d tokenFault (TokenReply.read now requested)
      (fun sent => by cases sent <;> rfl) fun sent => by cases sent <;> rfl
  · rintro new e ⟨rfl, he⟩
    exact .unprepared he.symm
  · rintro new d new' answer ⟨rfl, hd⟩ ⟨outcome, hs, rfl⟩
    exact .sent hd.symm hs

theorem logs_loads (p : Provider τ) (now : Time.Moment) (r : Registration)
    (token : AccessToken) :
    Logs (Loads p r token) (loadUser p now r token) (loadUser p.watched now r token) := by
  unfold loadUser
  cases hu : r.userInfoUri.truthy with
  | false => exact logs_lift (.noEndpoint hu)
  | true =>
    refine (logs_answered p now (userRequest r token) userFault (readUser r)
      (fun sent => by cases sent <;> rfl) fun sent => by cases sent <;> rfl).mono ?_
    rintro new _ ⟨outcome, hs, rfl⟩
    exact .sent hu hs

/-- Every login is a conversation. -/
theorem logs_authenticates (p : Provider τ) (now : Time.Moment) (t : LoginToken) :
    Logs (Authenticates p now t) (authenticate p now t) (authenticate p.watched now t) := by
  unfold authenticate
  by_cases h : t.request.redirectUri = .text t.response.redirectUri
  · rw [(Value.same_text_right _ _).2 h]
    refine (logs_change fun _ _ => rfl).bind (R := fun _ => Authenticates p now t) (fun _ => ?_)
      (fun new e he => (by cases he.2)) ?_
    · refine (logs_redeems p now _ _ _ _).bind
        (R := fun token new' answer => ∀ new, Redeems p now t.registration
          (t.response.code.getD "") t.request.redirectUri t.request.scopes new (.ok token) →
          Authenticates p now t (new ++ new') answer) (fun token => ?_)
        (fun new e hx => .noToken h hx) (fun new token new' answer hx hrest => hrest new hx)
      refine (logs_loads p now _ token).bind
        (R := fun user new' answer => new' = [] ∧ answer = .ok (loggedIn t token user))
        (fun user => logs_pure ⟨rfl, rfl⟩) (fun new' e hl new hx => .noUser h hx hl) ?_
      rintro new' user _ answer hl ⟨rfl, rfl⟩ new hx
      rw [List.append_nil]
      exact .completed h hx hl
    · rintro new _ new' answer ⟨rfl, -⟩ hrest
      exact hrest
  · rw [Bool.eq_false_iff.2 fun hsame => h ((Value.same_text_right _ _).1 hsame)]
    exact logs_lift (.mismatch h)

/-- What the provider gets and answers during a login. -/
def exchangesOf (p : Provider τ) (now : Time.Moment) (t : LoginToken) (w : Wire τ) : List Noted :=
  ((authenticate p.watched now t).runOn (w.watched [])).2.provider.2

end LoginCallback.HttpEngine
