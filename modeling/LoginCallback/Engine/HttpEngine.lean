import LoginCallback.Authentication.LoginToken
import LoginCallback.Engine.TokenReply
import LoginCallback.Http.Client

/-!
# The engine that asks the provider

The engine turns a callback into a user with two requests: the authorization code is exchanged for
an access token, and with the token the user is fetched. The callback must have come to the address
that the stored request named. Whatever the provider does wrong becomes a failure of the login.
-/

namespace LoginCallback.HttpEngine

open LoginCallback.Http

variable {τ : Type}

/-- A failure as a fault. -/
def fail {α : Type} (code : Value) (description : String) : Except Fault α :=
  .error (.failure (.engine code (.text description)))

/-! ## The exchange of the code -/

/-- The texts of a form value. -/
def formTexts (v : Value) : List String :=
  match v with
  | .list xs => xs.map one
  | v => [one v]
where
  one : Value → String
    | .null => ""
    | .bool b => if b then "true" else "false"
    | v => v.display

/-- One field of a form for each text of a value. -/
def formFields (name : String) (v : Value) : List (String × String) :=
  (formTexts v).map (name, ·)

/-- A name or secret as part of the credentials. -/
def credential (index : Nat) (v : Value) : Except Fault String :=
  match v with
  | .text s => .ok s
  | v => .error (.credentialKind index v.kind)

/-- The value of the authorization header, for clients that prove themselves with one. -/
def credentials? (r : Registration) : Except Fault (Option String) :=
  match r.authentication with
  | .secretBasic => do
    let secret := if r.clientSecret.truthy then r.clientSecret else .text ""
    let name ← credential 0 r.clientId
    return some (Draft.basic name (← credential 1 secret))
  | _ => .ok none

/-- The fields of the form in which the code is sent. -/
def tokenFields (r : Registration) (code : String) (redirectUri : Value) :
    List (String × String) :=
  [("grant_type", "authorization_code"), ("code", code)] ++ formFields "redirect_uri" redirectUri
    ++ (match r.authentication with
      | .secretBasic => []
      | .secretPost => formFields "client_id" r.clientId
        ++ (if r.clientSecret.truthy then formFields "client_secret" r.clientSecret else [])
      | .none => formFields "client_id" r.clientId)

/-- The request that exchanges a code. -/
def tokenRequest (r : Registration) (code : String) (redirectUri : Value) : Except Fault Draft := do
  return {
    method := "POST"
    address := r.tokenUri
    headers := [("accept", "application/json")]
    body := Octets.encodeForm (tokenFields r code redirectUri)
    contentHeaders := [("content-type", "application/x-www-form-urlencoded")]
    credentials := ← credentials? r }

/-- What a fault of the transport means for the exchange of a code; other faults stay. -/
def tokenFault (e : Fault) : Fault :=
  match e with
  | .transport (.timeout _) m =>
    .failure (.engine FailureCode.tokenEndpointTimeout (.text ("Token request timed out: " ++ m)))
  | .transport (.other _) m =>
    .failure (.engine FailureCode.invalidTokenResponse
      (.text ("HTTP error during token exchange: " ++ m)))
  | e => e

/-- Exchanges a code for an access token. -/
def exchangeCode [Platform] (p : Provider τ) (now : Time.Moment) (r : Registration) (code : String)
    (redirectUri : Value) (requested : List Value) : Action (Wire τ) AccessToken := do
  let draft ← tokenRequest r code redirectUri
  match ← (send p now draft).outcome with
  | .error e => throw (tokenFault e)
  | .ok reply => TokenReply.read now requested reply

/-! ## The user -/

/-- The request that fetches the user. -/
def userRequest (r : Registration) (t : AccessToken) : Draft :=
  { method := "GET"
    address := r.userInfoUri
    headers :=
      [("authorization", "Bearer " ++ t.tokenValue.display), ("accept", "application/json")] }

/-- What a fault of the transport means for the look-up of the user; other faults stay. -/
def userFault (e : Fault) : Fault :=
  match e with
  | .transport _ m =>
    .failure (.engine FailureCode.invalidUserInfoResponse
      (.text ("HTTP error fetching user info: " ++ m)))
  | e => e

/-- The user with the attributes of a reply. A missing name is the provider's failure. -/
def userOf (r : Registration) (attributes : Entries) : Except Fault User :=
  match User.ofAttributes (.mapping attributes) r.userNameAttribute with
  | .error e =>
    if e.category = .value then fail FailureCode.invalidUserInfoResponse e.message else .error e
  | user => user

/-- The user of a reply. -/
def readUser [Platform] (r : Registration) (reply : Reply) : Except Fault User := do
  let refused : Except Fault User := fail FailureCode.invalidUserInfoResponse
    ("User-info request failed with status " ++ toString reply.status)
  match ← reply.object? with
  | some attributes => if reply.status = 200 then userOf r attributes else refused
  | none => refused

/-- Fetches the user that an access token belongs to. -/
def loadUser [Platform] (p : Provider τ) (now : Time.Moment) (r : Registration) (t : AccessToken) :
    Action (Wire τ) User := do
  if !r.userInfoUri.truthy then
    fail FailureCode.invalidUserInfoResponse
      ("No user-info endpoint configured for " ++ r.id.display)
  else
    match ← (send p now (userRequest r t)).outcome with
    | .error e => throw (userFault e)
    | .ok reply => readUser r reply

/-! ## The whole -/

/-- The authorities of a user who has granted scopes. -/
def authoritiesOf (scopes : List Value) : List Value :=
  roleUser :: scopes.map fun s => .text ("SCOPE_" ++ s.display)

/-- Turns a login token into an authenticated one. -/
def authenticate [Platform] (p : Provider τ) (now : Time.Moment) (t : LoginToken) :
    Action (Wire τ) LoginToken := do
  if !Value.same t.request.redirectUri (.text t.response.redirectUri) then
    fail FailureCode.invalidRedirectUri
      "Callback redirect URI does not match the authorization request"
  else
    Action.change fun w => { w with journal := w.journal.add ⟨.debug, .engine,
      "Exchanging authorization code for registration " ++ t.registration.id.display⟩ }
    let accessToken ← exchangeCode p now t.registration (t.response.code.getD "")
      t.request.redirectUri t.request.scopes
    let user ← loadUser p now t.registration accessToken
    return t.authenticate user (some accessToken) (some (authoritiesOf accessToken.scopes))

end LoginCallback.HttpEngine
