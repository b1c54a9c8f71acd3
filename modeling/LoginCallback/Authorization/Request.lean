import LoginCallback.Fault

/-!
# Authorization requests

What the application asked a provider for when a login began. It is kept until the provider sends
the user back, as a mapping, which `AuthorizationRequest.read` takes back.
-/

namespace LoginCallback

structure AuthorizationRequest where
  clientId : Value
  authorizationUri : Value
  redirectUri : Value
  state : Value
  scopes : List Value
  additionalParameters : Entries
  grantType : Value

namespace AuthorizationRequest

/-- The request that a value describes. -/
def read (v : Value) : Except Fault AuthorizationRequest := do
  let clientId ← ofValue (v.item "client_id")
  let authorizationUri ← ofValue (v.item "authorization_uri")
  let redirectUri ← ofValue (v.item "redirect_uri")
  let state ← ofValue (v.item "state")
  let scopes ← ofValue (do (← v.getD "scopes" (.list [])).items)
  let additionalParameters ←
    ofValue (do (← v.getD "additional_parameters" (.mapping [])).toEntries)
  let grantType ← ofValue (v.getD "grant_type" (.text "authorization_code"))
  return { clientId, authorizationUri, redirectUri, state, scopes, additionalParameters, grantType }

/-- The request as sessions keep it. -/
def toValue (r : AuthorizationRequest) : Value :=
  Value.record [
    ("client_id", r.clientId),
    ("authorization_uri", r.authorizationUri),
    ("redirect_uri", r.redirectUri),
    ("state", r.state),
    ("scopes", .list r.scopes),
    ("additional_parameters", .mapping r.additionalParameters),
    ("grant_type", r.grantType)]

/-- The registration that the request was made for, if it names one. -/
def registrationId? (r : AuthorizationRequest) : Option String :=
  match (Entries.text? r.additionalParameters "registration_id").getD .null with
  | .null => none
  | v => some v.display

/-- Equality in every field. -/
def same (a b : AuthorizationRequest) : Bool := Value.same a.toValue b.toValue

end AuthorizationRequest

end LoginCallback
