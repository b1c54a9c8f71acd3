import LoginCallback.Authentication.AccessToken
import LoginCallback.Authentication.User
import LoginCallback.Authorization.Request
import LoginCallback.Authorization.Response
import LoginCallback.Registration.Basic

/-!
# Login tokens and principals

A login token carries a callback through the authentication engine, which returns it with the user
and the access token filled in. The principal is the outcome of a login.
-/

namespace LoginCallback

structure LoginToken where
  registration : Registration
  request : AuthorizationRequest
  response : AuthorizationResponse
  user : Option User := none
  accessToken : Option AccessToken := none
  authorities : List Value := []
  authenticated : Bool := false

namespace LoginToken

/-- The token with a user and an access token. The authorities are the user's own unless others are
given. -/
def authenticate (t : LoginToken) (user : User) (accessToken : Option AccessToken)
    (authorities : Option (List Value) := none) : LoginToken :=
  { t with
    user := some user
    accessToken
    authorities := authorities.getD user.authorities
    authenticated := true }

end LoginToken

/-- A user who has logged in through a registration. -/
structure Principal where
  user : User
  authorities : List Value
  registrationId : Value

/-- Name of the user. -/
def Principal.name (p : Principal) : Except Fault String := p.user.name

/-- The authentication that holds during one request, if any. -/
abbrev SecurityContext := Option Principal

end LoginCallback
