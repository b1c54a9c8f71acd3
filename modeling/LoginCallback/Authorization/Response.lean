import LoginCallback.Callback.Request
import LoginCallback.Failure

/-!
# Authorization responses

The provider's answer to an authorization request, as the parameters of the callback give it.
-/

namespace LoginCallback

structure AuthorizationResponse where
  redirectUri : String
  state : Option String
  code : Option String
  error : Option String
  errorDescription : Option String
  errorUri : Option String
  deriving DecidableEq

namespace AuthorizationResponse

def ofQuery (query : Query) (redirectUri : String) : AuthorizationResponse :=
  { redirectUri
    state := query.lookup "state"
    code := query.lookup "code"
    error := query.lookup "error"
    errorDescription := query.lookup "error_description"
    errorUri := query.lookup "error_uri" }

/-- Whether a parameter is present and not empty. -/
def given (parameter : Option String) : Bool :=
  match parameter with
  | some s => !s.isEmpty
  | none => false

def isError (r : AuthorizationResponse) : Bool := given r.error

def isSuccess (r : AuthorizationResponse) : Bool := !r.isError && given r.code

end AuthorizationResponse

/-- A parameter as a value; one that is absent is null. -/
def Value.ofText? : Option String → Value
  | some s => .text s
  | none => .null

/-- The failure that an error answer reports, in the provider's own words. -/
def Failure.provider (code description uri : Value) : Failure := ⟨.provider, code, description, uri⟩

end LoginCallback
