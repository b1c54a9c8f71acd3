import LoginCallback.Action
import LoginCallback.Authentication.Clients
import LoginCallback.Authentication.LoginToken
import LoginCallback.Journal

/-!
# The attempt to log in

A callback passes through stages: its parameters are read, the stored authorization request is
retrieved, the state parameters are compared, and the authentication engine exchanges the code for
a user. A failure in any stage is a result, not a fault. The stored request is removed when it is
retrieved, so the same callback cannot succeed twice.
-/

namespace LoginCallback

/-- Stages of an attempt. -/
inductive Stage where
  | start
  | storeLookup
  | stateValidated
  | exchanging
  | authenticated
  | failed
  deriving DecidableEq

namespace Stage

def name : Stage → String
  | start => "start"
  | storeLookup => "store_lookup"
  | stateValidated => "state_validated"
  | exchanging => "exchanging"
  | authenticated => "authenticated"
  | failed => "failed"

def all : List Stage := [start, storeLookup, stateValidated, exchanging, authenticated, failed]

end Stage

structure AttemptResult where
  status : Stage
  principal : Option Principal := none
  failure : Option Failure := none
  /-- The stage that was reached before the failure. -/
  failedIn : Option Stage := none
  /-- What the engine returned. -/
  loginToken : Option LoginToken := none

namespace AttemptResult

/-- The principal of an attempt that succeeded. -/
def success? (r : AttemptResult) : Option Principal :=
  if r.status = .authenticated then r.principal else none

def isSuccess (r : AttemptResult) : Bool := r.success?.isSome

end AttemptResult

/-- The parts that an attempt works with; they may change the host's state and may fault. -/
structure Services (σ : Type) where
  findRegistration : Value → Action σ (Option Registration)
  /-- Finds and removes the request stored under a state. -/
  retrieveRequest : String → Action σ (Option AuthorizationRequest)
  authenticate : LoginToken → Action σ LoginToken
  /-- Records who has authorized which registration, if the host wants to know. -/
  saveClient : Option (AuthorizedClient → Action σ Unit)
  log : Record → σ → σ

namespace Attempt

variable {σ : Type}

def fail (s : Services σ) (stage : Stage) (f : Failure) : Action σ AttemptResult := do
  Action.change (s.log ⟨.warning, .attempt,
    "Login callback failed in " ++ stage.name ++ ": " ++ f.code.display⟩)
  return { status := .failed, failure := some f, failedIn := some stage }

/-- Why the parameters of a callback cannot lead to a login, if they cannot. -/
def refusal? (r : AuthorizationResponse) : Option Failure :=
  if r.isError then
    some (.provider (.ofText? r.error) (.ofText? r.errorDescription) (.ofText? r.errorUri))
  else if !r.isSuccess then
    some (.invalidRequest (.text "Callback carries neither 'code' nor 'error'"))
  else if !AuthorizationResponse.given r.state then some .invalidState
  else none

/-- The principal of a token that the engine returned. -/
def principalOf (r : Registration) (t : LoginToken) : Except Fault Principal :=
  match t.user with
  | some user =>
    if t.authenticated then .ok ⟨user, t.authorities, r.id⟩ else .error .unauthenticatedToken
  | none => .error .unauthenticatedToken

/-- Records the access token of a principal, if there is one and the host wants it. -/
def recordClient (s : Services σ) (r : Registration) (p : Principal) (t : LoginToken) :
    Action σ Unit :=
  match s.saveClient, t.accessToken with
  | some save, some accessToken => do save ⟨r, ← p.name, accessToken⟩
  | _, _ => return ()

/-- The last stage: what the engine returned becomes a principal. -/
def finish (s : Services σ) (r : Registration) (t : LoginToken) : Action σ AttemptResult := do
  let p ← principalOf r t
  recordClient s r p t
  let name ← p.name
  Action.change (s.log ⟨.info, .attempt,
    "Authenticated '" ++ name ++ "' via " ++ r.id.display⟩)
  return { status := .authenticated, principal := some p, loginToken := some t }

/-- Hands the callback to the engine. -/
def exchange (s : Services σ) (r : Registration) (request : AuthorizationRequest)
    (response : AuthorizationResponse) : Action σ AttemptResult := do
  match ← (s.authenticate { registration := r, request, response }).outcome with
  | .ok t => finish s r t
  | .error (.failure f) => fail s .exchanging f.ofEngine
  | .error e => throw e

/-- Compares the states and finds the registration of the stored request. -/
def proceed (s : Services σ) (request : AuthorizationRequest) (response : AuthorizationResponse) :
    Action σ AttemptResult := do
  let state ← ofValue (request.state.textFor "encode")
  if some state ≠ response.state then fail s .stateValidated .invalidState
  else match ← s.findRegistration (.text (request.registrationId?.getD "")) with
    | none => fail s .exchanging (.registrationNotFound (.ofText? request.registrationId?))
    | some r => exchange s r request response

/-- The attempt to log in with a callback. -/
def run (s : Services σ) (c : Callback) : Action σ AttemptResult := do
  let response := AuthorizationResponse.ofQuery c.query c.url
  match refusal? response with
  | some f => fail s .start f
  | none =>
    match ← s.retrieveRequest (response.state.getD "") with
    | none => fail s .storeLookup .requestNotFound
    | some request => proceed s request response

end Attempt

end LoginCallback
