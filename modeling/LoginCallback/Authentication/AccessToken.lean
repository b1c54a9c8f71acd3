import LoginCallback.Fault

/-!
# Access tokens

What a provider issues in exchange for an authorization code.
-/

namespace LoginCallback

structure AccessToken where
  tokenValue : Value
  tokenType : Value := .text "Bearer"
  issuedAt : Option Time.Moment := none
  expiresAt : Option Time.Moment := none
  scopes : List Value := []
  refreshToken : Value := .null

namespace AccessToken

/-- From its expiry on a token is expired; without one it never is. -/
def isExpired (t : AccessToken) (now : Time.Moment) : Except Fault Bool :=
  match t.expiresAt with
  | none => .ok false
  | some e => (e.notAfter now).mapError .time

/-- The token as a message shows it, without its value. -/
def quoted (t : AccessToken) : String :=
  let expiry := match t.expiresAt with
    | some e => e.quoted
    | none => Value.null.quoted
  "AccessToken(token_type=" ++ t.tokenType.quoted ++ ", expires_at=" ++ expiry ++ ", scopes="
    ++ Value.quotedTuple t.scopes ++ ")"

end AccessToken

end LoginCallback
