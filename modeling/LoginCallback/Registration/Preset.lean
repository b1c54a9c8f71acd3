import LoginCallback.Registration.Basic
import LoginCallback.Text.Case

/-!
# Presets

Endpoints, scopes and user name attribute of well-known providers, so that only credentials have to
be configured. Given fields take precedence over those of the preset. The endpoints of Okta depend
on the domain of the organisation.
-/

namespace LoginCallback

inductive Preset where
  | google
  | github
  | facebook
  | okta
  deriving DecidableEq

namespace Preset

def name : Preset → String
  | google => "google"
  | github => "github"
  | facebook => "facebook"
  | okta => "okta"

def all : List Preset := [google, github, facebook, okta]

/-- The preset that a value names. -/
def ofValue (v : Value) : Except Fault Preset :=
  match v with
  | .text s => match all.find? (·.name == s) with
    | some p => .ok p
    | none => .error (.notAChoice v "CommonOAuth2Provider")
  | v => .error (.notAChoice v "CommonOAuth2Provider")

/-- The fields that a preset gives. -/
def fields : Preset → Entries
  | google => [
    (.text "scopes", .texts ["openid", "profile", "email"]),
    (.text "authorization_uri", .text "https://accounts.google.com/o/oauth2/v2/auth"),
    (.text "token_uri", .text "https://www.googleapis.com/oauth2/v4/token"),
    (.text "user_info_uri", .text "https://www.googleapis.com/oauth2/v3/userinfo"),
    (.text "user_name_attribute", .text "sub"),
    (.text "client_name", .text "Google")]
  | github => [
    (.text "scopes", .texts ["read:user"]),
    (.text "authorization_uri", .text "https://github.com/login/oauth/authorize"),
    (.text "token_uri", .text "https://github.com/login/oauth/access_token"),
    (.text "user_info_uri", .text "https://api.github.com/user"),
    (.text "user_name_attribute", .text "id"),
    (.text "client_name", .text "GitHub")]
  | facebook => [
    (.text "scopes", .texts ["public_profile", "email"]),
    (.text "authorization_uri", .text "https://www.facebook.com/v2.8/dialog/oauth"),
    (.text "token_uri", .text "https://graph.facebook.com/v2.8/oauth/access_token"),
    (.text "user_info_uri", .text "https://graph.facebook.com/me"),
    (.text "user_name_attribute", .text "id"),
    (.text "client_name", .text "Facebook"),
    (.text "client_authentication_method", .text "client_secret_post")]
  | okta => [
    (.text "scopes", .texts ["openid", "profile", "email"]),
    (.text "user_name_attribute", .text "sub"),
    (.text "client_name", .text "Okta")]

/-- The host of a domain that may be given as an address. -/
def hostOfDomain (domain : String) : String :=
  let cs := domain.toList
  let scheme := "https://".toList
  let host := if scheme.isPrefixOf cs then cs.drop scheme.length else cs
  String.ofList (Text.dropTrailing '/' host)

def endpointNames : List String := ["authorization_uri", "token_uri", "user_info_uri"]

/-- The endpoints at the domain of an organisation; without a domain all of them must be given. -/
def domainEndpoints (domain : Value) (given : Entries) : Except Fault Entries :=
  match domain with
  | .null =>
    if endpointNames.all fun n => ((Entries.text? given n).getD .null).truthy then .ok []
    else .error .domainRequired
  | .text d =>
    let base := "https://" ++ hostOfDomain d ++ "/oauth2/v1"
    .ok [(.text "authorization_uri", .text (base ++ "/authorize")),
      (.text "token_uri", .text (base ++ "/token")),
      (.text "user_info_uri", .text (base ++ "/userinfo"))]
  | v => .error (.value (.noMember v.kind "removeprefix"))

/-- The later entries on top of the earlier ones. -/
def overlay (below above : Entries) : Entries := above.foldl (fun m e => m.insert e.1 e.2) below

/-- Sets a field of a draft by its name. -/
def setField (d : Registration.Draft) (name : String) (v : Value) : Option Registration.Draft :=
  match name with
  | "client_authentication_method" => some { d with authentication := v }
  | "authorization_grant_type" => some { d with grantType := v }
  | "redirect_uri_template" => some { d with redirectTemplate := v }
  | "scopes" => some { d with scopes := v }
  | "authorization_uri" => some { d with authorizationUri := v }
  | "token_uri" => some { d with tokenUri := v }
  | "user_info_uri" => some { d with userInfoUri := v }
  | "user_name_attribute" => some { d with userNameAttribute := v }
  | "client_name" => some { d with clientName := v }
  | _ => none

/-- Sets every field that is given; an unknown one is refused. -/
def setFields (d : Registration.Draft) : Entries → Except Fault Registration.Draft
  | [] => .ok d
  | (.text name, v) :: es =>
    match setField d name v with
    | some d => setFields d es
    | none => .error (.arguments (.unexpected "ClientRegistration.__init__" name))
  | _ :: _ => .error (.arguments .nameNotText)

/-- Arguments that cannot be given as overrides too. -/
def fixedArguments : List String := ["self", "registration_id", "client_id", "client_secret"]

def checkNames (given : Entries) : Except Fault Unit := do
  if given.any fun e => !e.1.isText then throw (.arguments .nameNotText)
  for e in given do
    if let .text name := e.1 then
      if fixedArguments.contains name then
        throw (.arguments (.repeated "CommonOAuth2Provider.registration" name))

/-- The registration of a client with a preset and overriding fields. -/
def register (p : Preset) (id clientId clientSecret : Value) (given : Entries) :
    Except Fault Registration := do
  checkNames given
  let base : Entries :=
    overlay [(.text "redirect_uri_template", .text defaultRedirectTemplate)] p.fields
  let (base, given) ←
    if p = .okta then do
      let rest := given.erase (.text "okta_domain")
      let endpoints ← domainEndpoints ((Entries.text? given "okta_domain").getD .null) rest
      pure (overlay base endpoints, rest)
    else pure (base, given)
  Registration.ofDraft (← setFields { id, clientId, clientSecret } (overlay base given))

end Preset

end LoginCallback
