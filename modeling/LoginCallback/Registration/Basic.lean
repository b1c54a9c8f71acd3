import LoginCallback.Fault

/-!
# Client registrations

A client registration describes one client of one provider: its credentials, how it proves them to
the provider, the provider's endpoints, and the template of the address that the provider sends
users back to. All fields but the proof method may hold any value, as settings files may.
-/

namespace LoginCallback

/-- How a client proves its credentials at the token endpoint. -/
inductive ClientAuthentication where
  | secretBasic
  | secretPost
  | none
  deriving DecidableEq

namespace ClientAuthentication

def name : ClientAuthentication → String
  | secretBasic => "client_secret_basic"
  | secretPost => "client_secret_post"
  | none => "none"

def all : List ClientAuthentication := [secretBasic, secretPost, none]

/-- The method that a value names. -/
def ofValue (v : Value) : Except Fault ClientAuthentication :=
  match v with
  | .text s => match all.find? (·.name == s) with
    | some m => .ok m
    | Option.none => .error (.notAChoice v "ClientAuthenticationMethod")
  | v => .error (.notAChoice v "ClientAuthenticationMethod")

end ClientAuthentication

/-- The template of registrations that give none. -/
def defaultRedirectTemplate : String := "\x7bbase_url\x7d/login/oauth2/code/\x7bregistration_id\x7d"

structure Registration where
  id : Value
  clientId : Value
  clientSecret : Value
  authentication : ClientAuthentication
  grantType : Value
  redirectTemplate : Value
  scopes : List Value
  authorizationUri : Value
  tokenUri : Value
  userInfoUri : Value
  userNameAttribute : Value
  clientName : Value

namespace Registration

/-- The fields of a registration before they are checked. -/
structure Draft where
  id : Value
  clientId : Value
  clientSecret : Value := .null
  authentication : Value := .text "client_secret_basic"
  grantType : Value := .text "authorization_code"
  redirectTemplate : Value := .text defaultRedirectTemplate
  scopes : Value := .list []
  authorizationUri : Value := .text ""
  tokenUri : Value := .text ""
  userInfoUri : Value := .text ""
  userNameAttribute : Value := .text "sub"
  clientName : Value := .text ""

/-- Identifiers must be given, scopes must be a sequence, the proof method a known one; a client
without a name is called by its identifier. -/
def ofDraft (d : Draft) : Except Fault Registration := do
  if !d.id.truthy then throw (.emptyField "registration_id")
  if !d.clientId.truthy then throw (.emptyField "client_id")
  let scopes ← ofValue d.scopes.items
  let authentication ← ClientAuthentication.ofValue d.authentication
  return {
    id := d.id
    clientId := d.clientId
    clientSecret := d.clientSecret
    authentication
    grantType := d.grantType
    redirectTemplate := d.redirectTemplate
    scopes
    authorizationUri := d.authorizationUri
    tokenUri := d.tokenUri
    userInfoUri := d.userInfoUri
    userNameAttribute := d.userNameAttribute
    clientName := if d.clientName.truthy then d.clientName else d.id }

/-- The registration that the entries of a mapping describe. -/
def ofEntries (es : Entries) : Except Fault Registration := do
  let required (key : String) : Except Fault Value :=
    ofValue ((Value.mapping es).item key)
  let given (key : String) (default : Value) : Value := (Entries.text? es key).getD default
  let id ← required "registration_id"
  let clientId ← required "client_id"
  let scopes ← ofValue (given "scopes" (.list [])).items
  ofDraft {
    id
    clientId
    clientSecret := given "client_secret" .null
    authentication := given "client_authentication_method" (.text "client_secret_basic")
    grantType := given "authorization_grant_type" (.text "authorization_code")
    redirectTemplate := given "redirect_uri_template" (.text defaultRedirectTemplate)
    scopes := .list scopes
    authorizationUri := given "authorization_uri" (.text "")
    tokenUri := given "token_uri" (.text "")
    userInfoUri := given "user_info_uri" (.text "")
    userNameAttribute := given "user_name_attribute" (.text "sub")
    clientName := given "client_name" (.text "") }

/-- The registration that a value describes. -/
def read (v : Value) : Except Fault Registration := do
  match v with
  | .mapping es => ofEntries es
  | v =>
    let _ ← ofValue (v.item "registration_id")
    throw (.value (.noMember v.kind "get"))

/-- The registration as settings hold it. The secret is left out. -/
def toValue (r : Registration) : Value :=
  Value.record [
    ("registration_id", r.id),
    ("client_id", r.clientId),
    ("client_authentication_method", .text r.authentication.name),
    ("authorization_grant_type", r.grantType),
    ("redirect_uri_template", r.redirectTemplate),
    ("scopes", .list r.scopes),
    ("authorization_uri", r.authorizationUri),
    ("token_uri", r.tokenUri),
    ("user_info_uri", r.userInfoUri),
    ("user_name_attribute", r.userNameAttribute),
    ("client_name", r.clientName)]

/-- The address that the provider sends users back to, on a site at `base`. -/
def redirectUri [Platform] (r : Registration) (base : String) : Except Fault String :=
  match r.redirectTemplate with
  | .text t =>
    let site := String.ofList (Text.dropTrailing '/' base.toList)
    (Template.expand [("base_url", .text site), ("registration_id", r.id)] t).mapError .template
  | v => .error (.value (.noMember v.kind "format"))

end Registration

end LoginCallback
