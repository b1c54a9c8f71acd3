import LoginCallback.Value.Display

/-!
# Failures of a login

A login that fails is answered with a typed failure. It carries an error code, by which a failure
handler tells what went wrong, and optionally a description and the address of a page about it.
Codes and descriptions that come from a provider are kept as they are, whatever their kind.
-/

namespace LoginCallback

/-- What kind of step a login failed in. -/
inductive FailureKind where
  /-- An authentication engine that does not say more. -/
  | general
  /-- The provider refused the authorization request. -/
  | provider
  /-- No pending authorization request belongs to the callback. -/
  | requestNotFound
  /-- The check of the state parameter failed. -/
  | invalidState
  /-- The stored request names an unknown client registration. -/
  | registrationNotFound
  /-- The callback is neither a success nor an error. -/
  | invalidRequest
  /-- The exchange of the code or the look-up of the user failed. -/
  | engine
  deriving DecidableEq

structure Failure where
  kind : FailureKind
  code : Value
  description : Value := .null
  uri : Value := .null

namespace Failure

/-- The code in brackets, followed by the description if there is one. -/
def message (f : Failure) : String :=
  if f.description.truthy then "[" ++ f.code.display ++ "] " ++ f.description.display
  else "[" ++ f.code.display ++ "]"

def requestNotFound : Failure :=
  ⟨.requestNotFound, .text "authorization_request_not_found",
    .text "No pending authorization request for this state", .null⟩

def invalidState : Failure :=
  ⟨.invalidState, .text "invalid_state_parameter",
    .text "State parameter is missing or does not match", .null⟩

def registrationNotFound (id : Value) : Failure :=
  ⟨.registrationNotFound, .text "client_registration_not_found",
    .text ("Client registration not found: " ++ id.display), .null⟩

def invalidRequest (description : Value) : Failure :=
  ⟨.invalidRequest, .text "invalid_request", description, .null⟩

/-- A failure reported by the authentication engine. -/
def engine (code : Value) (description : Value := .null) : Failure :=
  ⟨.engine, code, description, .null⟩

/-- A failure of an engine that does not say more counts as one of the engine, with the same code;
any other failure stays as it is. -/
def ofEngine (f : Failure) : Failure := if f.kind = .general then { f with kind := .engine } else f

end Failure

/-! ## Codes reported by the engine -/

namespace FailureCode

def invalidTokenResponse : Value := .text "invalid_token_response"

def invalidUserInfoResponse : Value := .text "invalid_user_info_response"

def invalidRedirectUri : Value := .text "invalid_redirect_uri_parameter"

def tokenEndpointTimeout : Value := .text "token_endpoint_timeout"

end FailureCode

end LoginCallback
