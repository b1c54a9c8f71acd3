import LoginCallback.Authentication.AccessToken
import LoginCallback.Http.Message

/-!
# Replies to the exchange of a code

A reply to the exchange of an authorization code is an access token, or says why there is none: an
`error` field, whatever the status, a status other than 200, no token, or a lifetime that is no
number.
-/

namespace LoginCallback.TokenReply

/-- Why a number cannot be made an integer. -/
inductive IntegerFault where
  /-- The value is of the wrong kind, or no number. -/
  | invalid
  /-- The number is infinite. -/
  | infinite

/-- The integral part of a number, or the integer that a text writes. -/
def toInteger (v : Value) : Except IntegerFault Int :=
  match v with
  | .bool b => .ok (if b then 1 else 0)
  | .int n => .ok n
  | .float x => match Decimal.parts x with
    | .infinite _ => .error .infinite
    | .nan => .error .invalid
    | .finite .. => .ok ((Decimal.truncate? x).getD 0)
  | .text s => match Decimal.readInt? s with
    | some n => .ok n
    | none => .error .invalid
  | _ => .error .invalid

/-- When a token issued now expires, by its lifetime in seconds. -/
def expiry (now : Time.Moment) (lifetime : Value) : Except Fault (Option Time.Moment) :=
  match lifetime with
  | .null => .ok none
  | v => match toInteger v with
    | .error .invalid =>
      .error (.failure (.engine FailureCode.invalidTokenResponse
        (.text ("Invalid expires_in: " ++ v.quoted))))
    | .error .infinite => .error (.time .infiniteSeconds)
    | .ok n => do
      let d ← (Time.Duration.ofMicros (n * Time.microsPerSecond)).mapError .time
      return some (← (now.add d).mapError .time)

/-- The scopes of a text: what stands between commas and blanks. -/
def scopesOf (text : String) : List Value :=
  (Text.words (text.toList.map fun c => if c == ',' then ' ' else c)).map fun w =>
    .text (String.ofList w)

/-- A field, or null. -/
def fieldOf (fields : Entries) (name : String) : Value := (Entries.text? fields name).getD .null

/-- The first value that counts as given. -/
def firstGiven (v default : Value) : Value := if v.truthy then v else default

/-- The token that the fields of a reply describe. A reply without scopes grants those that were
requested. -/
def accessToken (now : Time.Moment) (requested : List Value) (fields : Entries) :
    Except Fault AccessToken := do
  let expiresAt ← expiry now (fieldOf fields "expires_in")
  return {
    tokenValue := fieldOf fields "access_token"
    tokenType := firstGiven (fieldOf fields "token_type") (.text "Bearer")
    issuedAt := some now
    expiresAt
    scopes := match fieldOf fields "scope" with
      | .text s => scopesOf s
      | _ => requested
    refreshToken := fieldOf fields "refresh_token" }

/-- The failure that a reply reports, if it does. -/
def failure? (status : Int) (fields : Entries) : Option Failure :=
  let error := fieldOf fields "error"
  if error.truthy || status ≠ 200 then
    some (.engine (.text (firstGiven error FailureCode.invalidTokenResponse).display)
      ((Entries.text? fields "error_description").getD
        (.text ("Token request failed with status " ++ toString status))))
  else if !(fieldOf fields "access_token").truthy then
    some (.engine FailureCode.invalidTokenResponse
      (.text "Token response did not contain an access_token"))
  else none

/-- The token of a reply. -/
def read [Platform] (now : Time.Moment) (requested : List Value) (r : Http.Reply) :
    Except Fault AccessToken := do
  let fields := (← r.object?).getD []
  match failure? r.status fields with
  | some f => throw (.failure f)
  | none => accessToken now requested fields

end LoginCallback.TokenReply
